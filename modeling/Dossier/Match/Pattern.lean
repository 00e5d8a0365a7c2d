import Dossier.Decimal.Basic
import Dossier.Match.Glob
import Dossier.Match.Grade
import Dossier.Match.Snippet
import Dossier.Profile.Value

/-!
Patterns of a query and the texts they match. A value matches by the texts inside it: the best of
them gives the grade, and each gives a highlight.
-/

namespace Dossier

inductive Pattern where
  | whole (source : String)
  | part (source : String)
  | glob (source : String)
  deriving DecidableEq, Repr

structure Outcome where
  grade : Grade
  highlights : List String
  deriving DecidableEq, Repr

/-- An outcome as it is gathered, text by text; that a text matched is noted by itself. -/
structure Gathered where
  matched : Bool
  score : Float
  highlights : List String

def Gathered.absorb (g : Gathered) (score : Float) (highlight : Option String) : Gathered :=
  ⟨true, Decimal.greater g.score score, g.highlights ++ highlight.toList⟩

namespace Pattern

/-- Wildcards win over the wish for the whole value, if the expression that they make compiles. -/
def compileWith (compiles : List Char → Bool) (source : String) (exact : Bool) : Pattern :=
  if Query.containsWildcard source && compiles source.toList then .glob source
  else if exact then .whole source
  else .part source

def compile (source : String) (exact : Bool) : Pattern := compileWith Glob.isUsable source exact

def source : Pattern → String
  | .whole s | .part s | .glob s => s

def plainGrade (needle text : List Char) : Grade :=
  if needle.isEmpty then .miss
  else if text = needle then .whole
  else if needle.isPrefixOf text then .start
  else if Text.contains text needle then .inside
  else .miss

def grade (p : Pattern) (text : String) : Grade :=
  match p with
  | .whole s =>
    let needle := Text.fold s.toList
    if !needle.isEmpty && Text.fold text.toList = needle then .whole else .miss
  | .part s => plainGrade (Text.fold s.toList) (Text.fold text.toList)
  | .glob s => if Glob.accepts s.toList text.toList then .wild else .miss

def highlight? (p : Pattern) (context : Nat) (text : String) : Option String :=
  match p with
  | .whole s | .part s => (Snippet.marked? text.toList s.toList context).map String.ofList
  | .glob _ => some (String.ofList (Snippet.approximate text.toList context))

def cutHighlight (p : Pattern) (context : Nat) (text : String) :
    Except Snippet.Abort (Option String) :=
  match p with
  | .whole s | .part s => (Snippet.cut text.toList s.toList context).map (·.map String.ofList)
  | .glob _ => .ok (some (String.ofList (Snippet.approximate text.toList context)))

/-- Highlighting the texts that match ends the program. -/
def aborts (p : Pattern) (highlight : Bool) (context : Nat) (texts : List String) : Bool :=
  highlight && texts.any fun t => (p.grade t).isMatch && !(p.cutHighlight context t).isOk

/-- The outcome for a list of texts: the best grade, and the highlights of those that match. -/
def outcome (p : Pattern) (highlight : Bool) (context : Nat) (texts : List String) : Outcome :=
  let graded := texts.map fun t => (t, p.grade t)
  let hits := graded.filter (·.2.isMatch)
  ⟨hits.foldl (fun g h => g.max h.2) .miss,
    if highlight then hits.filterMap fun h => p.highlight? context h.1 else []⟩

def gather (p : Pattern) (highlight : Bool) (context : Nat) (texts : List String) : Gathered :=
  texts.foldl
    (fun g t =>
      if (p.grade t).isMatch then
        g.absorb (p.grade t).score (if highlight then p.highlight? context t else none)
      else g)
    ⟨false, 0.0, []⟩

end Pattern

end Dossier
