import Dossier.Decimal.Shortest
import Dossier.Dict

/-!
Search results and their ranking. Results are ranked by score, the highest first, and keep their
order among equal scores; a page is a slice of the ranked list.
-/

namespace Dossier

structure SearchResult where
  collection : String
  id : String
  kind : String
  score : Float
  highlights : Dict (List String)
  matchedFields : List String
  summary : Dict String

structure Page where
  total : Nat
  results : List SearchResult

def Page.empty : Page := ⟨0, []⟩

/-- The place of a double in their total order, in which minus zero stands before zero and what is
no number at the far ends. -/
def orderKey (x : Float) : Int :=
  let bits := x.toBits.toNat
  if bits < Decimal.signBit then bits else Decimal.signBit - 1 - (bits : Int)

namespace SearchResult

def key (r : SearchResult) : String × String := (r.collection, r.id)

def firstPerKey (seen : List (String × String)) : List SearchResult → List SearchResult
  | [] => []
  | r :: rest =>
    if seen.contains r.key then firstPerKey seen rest
    else r :: firstPerKey (r.key :: seen) rest

/-- Appends one list to another; of the results for one record the first stays. -/
def mergeUnique (primary secondary : List SearchResult) : List SearchResult :=
  firstPerKey [] (primary ++ secondary)

/-- The highest score first; results of one score keep their order. -/
def ranked (results : List SearchResult) : List SearchResult :=
  results.mergeSort fun a b => orderKey b.score ≤ orderKey a.score

end SearchResult

def slice {α : Type} (items : List α) (offset limit : Nat) : List α :=
  (items.drop offset).take limit

end Dossier
