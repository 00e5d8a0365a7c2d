import Dossier.Command.Option

/-!
The command line of the program: one of five commands with its options, and options for all of them
that may stand before the command or after it.
-/

namespace Dossier

structure SearchOptions where
  query : String
  collection : Option String
  kinds : List String
  fields : List String
  limit : Option Nat
  offset : Nat
  fuzzy : Bool
  noHighlight : Bool
  advanced : Bool
  deriving DecidableEq, Repr

inductive Command where
  | search (o : SearchOptions)
  | within (collection record query : String)
  | parse (query : String)
  | fields
  | index (collection : Option String)
  deriving DecidableEq, Repr

structure Invocation where
  command : Command
  config : Option String
  store : Option String
  deriving DecidableEq, Repr

namespace Command

inductive Line where
  | run (i : Invocation)
  | help
  | version
  | usage
  deriving DecidableEq, Repr

def configVariable : String := "CASEFILE_CONFIG"

def storeVariable : String := "CASEFILE_STORE"

def commonOptions : List OptionSpec := [
  { long := "verbose", short := some 'v', arity := .flag },
  { long := "quiet", arity := .flag },
  { long := "config", kind := .path, standIn := some configVariable },
  { long := "store", kind := .path, standIn := some storeVariable }]

def queryOption : OptionSpec := { long := "query", short := some 'q' }

def collectionOption : OptionSpec := { long := "collection", short := some 'c' }

def optionsOf? (name : String) : Option (List OptionSpec) :=
  match name with
  | "search" => some [
      queryOption, collectionOption,
      { long := "type", short := some 't', arity := .many },
      { long := "field", short := some 'f', arity := .many },
      { long := "limit", short := some 'l', kind := .count },
      { long := "offset", short := some 'o', kind := .count },
      { long := "fuzzy", arity := .flag },
      { long := "no-highlight", arity := .flag },
      { long := "advanced", arity := .flag }]
  | "within" => some [collectionOption, { long := "record", short := some 'r' }, queryOption]
  | "parse" => some [queryOption]
  | "fields" => some []
  | "index" => some [collectionOption]
  | _ => none

def ofGiven? (name : String) (g : Given) : Option Command :=
  match name with
  | "search" => do
    let query ← g.value? "query"
    return .search {
      query
      collection := g.value? "collection"
      kinds := g.values "type"
      fields := g.values "field"
      limit := (g.value? "limit").bind position?
      offset := ((g.value? "offset").bind position?).getD 0
      fuzzy := g.isSet "fuzzy"
      noHighlight := g.isSet "no-highlight"
      advanced := g.isSet "advanced" }
  | "within" => do
    return .within (← g.value? "collection") (← g.value? "record") (← g.value? "query")
  | "parse" => (g.value? "query").map .parse
  | "fields" => some .fields
  | "index" => some (.index (g.value? "collection"))
  | _ => none

/-- The value of a common option: after the command it counts more than before it, and a variable
counts least. -/
def commonValue? (outer inner : Given) (env : String → Option String) (long standIn : String) :
    Option String :=
  (inner.value? long <|> outer.value? long) <|> env standIn

def readHelp : List String → Line
  | [] => .help
  | [name] => if name = "help" || (optionsOf? name).isSome then .help else .usage
  | _ => .usage

def readCommand (env : String → Option String) (outer : Given) (name : String)
    (args : List String) : Line :=
  match optionsOf? name with
  | none => if name = "help" then readHelp args else .usage
  | some own =>
    let table : OptionTable := ⟨own ++ commonOptions, false⟩
    match table.read [] args with
    | .complete inner =>
      if !table.variablesFit inner env ||
          !OptionTable.variablesFit ⟨commonOptions, true⟩ outer env then
        .usage
      else
        match ofGiven? name inner with
        | some command =>
          .run {
            command
            config := commonValue? outer inner env "config" configVariable
            store := commonValue? outer inner env "store" storeVariable }
        | none => .usage
    | .help => .help
    | _ => .usage

def readLine (env : String → Option String) (args : List String) : Line :=
  match OptionTable.read ⟨commonOptions, true⟩ [] args with
  | .command outer name rest => readCommand env outer name rest
  | .help => .help
  | .version => .version
  | .complete _ | .wrong => .usage

end Command

end Dossier
