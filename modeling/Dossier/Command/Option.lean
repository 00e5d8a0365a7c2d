import Dossier.Profile.Lookup

/-!
Command line options, given by long name, by short name, or in a cluster of short names of which
the last may take a value. A value is attached or follows; one that follows does not begin with a
hyphen unless it is nothing else.
-/

namespace Dossier.Command

inductive Arity where
  | flag
  | once
  | many
  deriving DecidableEq, Repr

inductive ValueKind where
  | text
  | count
  | path
  deriving DecidableEq, Repr

structure OptionSpec where
  long : String
  short : Option Char := none
  arity : Arity := .once
  kind : ValueKind := .text
  /-- The variable of the environment that stands in for the option. -/
  standIn : Option String := none
  deriving DecidableEq, Repr

abbrev Given := List (String × String)

namespace Given

def values (g : Given) (long : String) : List String := (g.filter (·.1 = long)).map (·.2)

def value? (g : Given) (long : String) : Option String := (g.values long).head?

def isSet (g : Given) (long : String) : Bool := g.any (·.1 = long)

end Given

def ValueKind.accepts (k : ValueKind) (value : String) : Bool :=
  match k with
  | .text => true
  | .count => (position? value).isSome
  | .path => !value.isEmpty

def OptionSpec.add? (o : OptionSpec) (value : String) (g : Given) : Option Given :=
  if o.kind.accepts value && (o.arity == .many || !g.isSet o.long) then
    some (g ++ [(o.long, value)])
  else none

/-- What an argument that is an option does: it adds itself, it waits for its value, it asks for
something else than the program's work, or it is wrong. -/
inductive Effect where
  | add (g : Given)
  | await (o : OptionSpec) (g : Given)
  | help
  | version
  | wrong

def Effect.ofAdded : Option Given → Effect
  | some g => .add g
  | none => .wrong

/-- Options of one command. Only the outermost command tells the version. -/
structure OptionTable where
  options : List OptionSpec
  tellsVersion : Bool

namespace OptionTable

def cluster (t : OptionTable) (g : Given) : List Char → Effect
  | [] => .add g
  | c :: rest =>
    match t.options.find? (·.short = some c) with
    | none => if c = 'h' then .help else if c = 'V' && t.tellsVersion then .version else .wrong
    | some o =>
      if o.arity = .flag then
        match o.add? "" g with
        | some g => cluster t g rest
        | none => .wrong
      else
        match rest with
        | [] => .await o g
        | '=' :: value | value => .ofAdded (o.add? (String.ofList value) g)

def long (t : OptionTable) (g : Given) (cs : List Char) : Effect :=
  let name := String.ofList (cs.takeWhile (· ≠ '='))
  match t.options.find? (·.long = name), cs.dropWhile (· ≠ '=') with
  | none, attached =>
    if !attached.isEmpty then .wrong
    else if name = "help" then .help
    else if name = "version" && t.tellsVersion then .version
    else .wrong
  | some o, [] => if o.arity = .flag then .ofAdded (o.add? "" g) else .await o g
  | some o, _ :: value =>
    if o.arity = .flag then .wrong else .ofAdded (o.add? (String.ofList value) g)

def effect? (t : OptionTable) (g : Given) (arg : String) : Option Effect :=
  match arg.toList with
  | '-' :: '-' :: name => some (t.long g name)
  | '-' :: c :: rest => some (t.cluster g (c :: rest))
  | _ => none

inductive Ending where
  | complete (g : Given)
  | command (g : Given) (name : String) (rest : List String)
  | help
  | version
  | wrong

/-- Reads the options of a command. Two hyphens alone end them, and nothing may follow. -/
def read (t : OptionTable) (g : Given) : List String → Ending
  | [] => .complete g
  | arg :: rest =>
    if arg = "--" then if rest.isEmpty then .complete g else .wrong
    else
      match t.effect? g arg with
      | none => .command g arg rest
      | some (.add g) => read t g rest
      | some .help => .help
      | some .version => .version
      | some .wrong => .wrong
      | some (.await o g) =>
        match rest with
        | [] => .wrong
        | value :: rest =>
          if (t.effect? g value).isSome then .wrong
          else
            match o.add? value g with
            | some g => read t g rest
            | none => .wrong

/-- The value of each variable that stands in for an option that was not given is as good as one
that was. -/
def variablesFit (t : OptionTable) (g : Given) (env : String → Option String) : Bool :=
  t.options.all fun o =>
    g.isSet o.long || ((o.standIn.bind env).all o.kind.accepts)

end OptionTable

end Dossier.Command
