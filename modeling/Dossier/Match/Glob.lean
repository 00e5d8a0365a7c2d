import Dossier.Query.Basic
import Dossier.Text.Case

/-!
Patterns with wildcards: a star takes any run of characters, a question mark one character, and any
other character one that differs from it in case at most. A pattern takes the whole text. It is
matched from its end, by a row that says of each rest of the text whether the pattern takes it.
-/

namespace Dossier.Glob

inductive Part where
  | run
  | one
  | letter (cls : Nat)
  deriving DecidableEq, Repr

def partOf (c : Char) : Part :=
  if c = '*' then .run else if c = '?' then .one else .letter (Text.caseClass c)

/-- The row of the empty pattern, for a text of classes: it takes the empty rest only. -/
def baseRow (text : List Nat) : List Bool := text.foldr (fun _ row => false :: row) [true]

def rowBefore (p : Part) (text : List Nat) (row : List Bool) : List Bool :=
  match p with
  | .run => row.foldr (fun b later => (b || later.headD false) :: later) []
  | .one => row.tail ++ [false]
  | .letter cls => List.zipWith (fun c b => c == cls && b) text row.tail ++ [false]

def takes (parts : List Part) (text : List Nat) : Bool :=
  (parts.foldr (fun p row => rowBefore p text row) (baseRow text)).headD false

def accepts (pattern text : List Char) : Bool :=
  takes (pattern.map partOf) (text.map Text.caseClass)

/-- More wildcards than this make an expression that is too large to be compiled. The number stands
in for the measure of the compiler, which is not part of this library. -/
def maxWildcards : Nat := 12500

def isUsable (pattern : List Char) : Bool := pattern.countP Query.isWildcard ≤ maxWildcards

example : accepts "j?hn*".toList "JOHNson".toList = true := by decide +kernel

example : accepts "j?hn".toList "jhn".toList = false := by decide +kernel

end Dossier.Glob
