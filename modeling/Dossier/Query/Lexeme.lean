import Dossier.Text.Blank
import Dossier.Text.Letter

/-!
What parts a query text: parentheses, quoted runs with the name of a field before them, and bare
runs. Blanks part bare runs, and there is no way to write a quote inside a quoted run.
-/

namespace Dossier.Query

namespace Lexeme

def isBoundary (c : Char) : Bool := Text.isBlank c || c = '(' || c = ')' || c = '"'

def inRun (c : Char) : Bool := !isBoundary c

/-- A letter or a low line, then letters, digits, low lines, dots and hyphens. -/
def isFieldName : List Char → Bool
  | [] => false
  | c :: rest =>
    (Text.isAlphabetic c || c = '_') &&
      rest.all fun d => Text.isAlphanumeric d || d = '_' || d = '.' || d = '-'

/-- The field that a run just before a quote names, if it is a name and a colon. -/
def fieldBefore? (run : List Char) : Option (List Char) :=
  if run.getLast? = some ':' && isFieldName run.dropLast then some run.dropLast else none

def splitQuote? (cs : List Char) : Option (List Char × List Char) :=
  match cs.dropWhile (· ≠ '"') with
  | [] => none
  | _ :: rest => some (cs.takeWhile (· ≠ '"'), rest)

theorem length_splitQuote? {cs content rest : List Char}
    (h : splitQuote? cs = some (content, rest)) :
    rest.length < cs.length := by
  have le : (cs.dropWhile (· ≠ '"')).length ≤ cs.length := (List.dropWhile_suffix _).length_le
  unfold splitQuote? at h
  split at h
  · cases h
  · rename_i eq
    cases h
    rw [eq] at le
    exact le

end Lexeme

end Dossier.Query
