import Dossier.Match.Pattern
import Dossier.Profile.Lookup
import Dossier.Profile.Record
import Dossier.Query.Expr

/-!
Evaluating an expression on a record, or on one leaf of it. Both sides of every connective are
evaluated, and hits are kept even where a conjunction fails, so that a disjunction around it can
still report them; a negation reports nothing.
-/

namespace Dossier

structure Setting where
  fields : List String
  highlight : Bool
  context : Nat
  deriving DecidableEq, Repr

structure Hit where
  path : String
  highlights : List String
  deriving DecidableEq, Repr

structure Evaluation where
  matched : Bool
  grade : Grade
  hits : List Hit
  deriving DecidableEq, Repr

namespace Evaluation

def miss : Evaluation := ⟨false, .miss, []⟩

def not (e : Evaluation) : Evaluation := ⟨!e.matched, .miss, []⟩

def and (e f : Evaluation) : Evaluation :=
  let both := e.matched && f.matched
  ⟨both, if both then e.grade.max f.grade else .miss, e.hits ++ f.hits⟩

/-- The grade of a side that is not matched does not count. -/
def or (e f : Evaluation) : Evaluation :=
  let counted := fun e : Evaluation => if e.matched then e.grade else .miss
  ⟨e.matched || f.matched, (counted e).max (counted f), e.hits ++ f.hits⟩

end Evaluation

inductive Target where
  | record (r : Record)
  | leaf (path : String) (value : Value)

namespace Target

def belowSection? (path : String) : Option String :=
  match path.toList.dropWhile (· ≠ '.') with
  | [] => none
  | _ :: rest => some (String.ofList rest)

/-- What a field means here. A leaf answers to its path, with its section or without. -/
def occurrences (t : Target) (field : String) : List (String × Value) :=
  match t with
  | .record r => r.profile.occurrences field
  | .leaf path v =>
    if path = field || belowSection? path = some field then [(path, v)] else []

def candidates (t : Target) (fields : List String) : List (String × Value) :=
  match t with
  | .record r => fields.flatMap r.profile.occurrences
  | .leaf path v => [(path, v)]

end Target

/-- An expression with its patterns compiled, groups left out. -/
inductive Plan where
  | term (field : Option String) (pattern : Pattern)
  | not (p : Plan)
  | and (p q : Plan)
  | or (p q : Plan)
  deriving DecidableEq, Repr

namespace Plan

def compile : Query.Expr → Plan
  | .term t => .term t.field (.compile t.value t.exact)
  | .group e => compile e
  | .not e => .not (compile e)
  | .and e f => .and (compile e) (compile f)
  | .or e f => .or (compile e) (compile f)

def matching (p : Pattern) (s : Setting) (candidates : List (String × Value)) :
    List (String × Outcome) :=
  (candidates.map fun c => (c.1, p.outcome s.highlight s.context c.2.texts)).filter
    (·.2.grade.isMatch)

/-- A term with a field: the first occurrence that matches is reported. -/
def evaluateScoped (p : Pattern) (s : Setting) (candidates : List (String × Value)) : Evaluation :=
  match candidates with
  | [] => .miss
  | c :: rest =>
    let o := p.outcome s.highlight s.context c.2.texts
    if o.grade.isMatch then ⟨true, o.grade, [⟨c.1, o.highlights⟩]⟩ else evaluateScoped p s rest

def addHit (hits : List Hit) (path : String) (o : Outcome) : List Hit :=
  if hits.any (·.path = path) then hits else hits ++ [⟨path, o.highlights⟩]

/-- A term without a field: every candidate that matches is reported, once for each path. -/
def evaluateUnscoped (p : Pattern) (s : Setting) (candidates : List (String × Value)) :
    Evaluation :=
  let found := matching p s candidates
  ⟨!found.isEmpty, found.foldl (fun g c => g.max c.2.grade) .miss,
    found.foldl (fun hits c => addHit hits c.1 c.2) []⟩

def run (t : Target) (s : Setting) : Plan → Evaluation
  | .term (some field) p => evaluateScoped p s (t.occurrences field)
  | .term none p => evaluateUnscoped p s (t.candidates s.fields)
  | .not p => (run t s p).not
  | .and p q => (run t s p).and (run t s q)
  | .or p q => (run t s p).or (run t s q)

/-- A term with a field ends the program: values are highlighted up to the first that matches. -/
def scopedAborts (p : Pattern) (s : Setting) (candidates : List (String × Value)) : Bool :=
  match candidates with
  | [] => false
  | c :: rest =>
    if (p.outcome s.highlight s.context c.2.texts).grade.isMatch then
      p.aborts s.highlight s.context c.2.texts
    else scopedAborts p s rest

/-- The run ends the program before it gives an evaluation. What is proved of `run` alone is about
runs for which this is false. -/
def aborts (t : Target) (s : Setting) : Plan → Bool
  | .term (some field) p => scopedAborts p s (t.occurrences field)
  | .term none p => (t.candidates s.fields).any fun c => p.aborts s.highlight s.context c.2.texts
  | .not p => aborts t s p
  | .and p q | .or p q => aborts t s p || aborts t s q

end Plan

end Dossier
