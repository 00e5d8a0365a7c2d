import Dossier.Decimal.Basic
import Dossier.Near.Policy
import Dossier.Near.Similarity
import Dossier.Profile.Lookup
import Dossier.Profile.Record
import Dossier.Text.Word

/-!
The search for near misses among the records that did not match. Each text of the searched fields is
compared as a whole and word by word; the first text that is most similar stands for its record.
-/

namespace Dossier.Near

structure Hit where
  index : Nat
  score : Float
  path : String
  value : String

/-- A second search is made if it is asked for, if the page is not full, and if it can be made. -/
def isWanted (s : Similarity) (requested : Bool) (found limit : Nat) : Bool :=
  requested && found < limit && s.available

def better (best : Option Float) (next : Option Float) : Option Float :=
  match best, next with
  | some b, some n => some (Decimal.greater b n)
  | none, n => n
  | b, none => b

/-- The similarity of a text or of a word in it, whichever is greatest. -/
def bestSimilarity (s : Similarity) (query text : String) : Option Float :=
  let words := ((Text.runningWords text.toList).map String.ofList).filter (· ≠ text)
  words.foldl (fun best w => better best (s.measure query w)) (s.measure query text)

def fieldTexts (r : Record) (fields : List String) : List (String × String) :=
  (fields.flatMap r.profile.occurrences).flatMap fun (path, v) => v.texts.map fun t => (path, t)

structure Best where
  similarity : Float
  path : String
  value : String

/-- The first of the texts that are most similar to the query. -/
def best? (s : Similarity) (query : String) (texts : List (String × String)) : Option Best :=
  texts.foldl
    (fun best (path, text) =>
      match best, bestSimilarity s query text with
      | some b, some x => if b.similarity < x then some ⟨x, path, text⟩ else some b
      | none, some x => some ⟨x, path, text⟩
      | b, none => b)
    none

def hits (s : Similarity) (policy : Policy) (query : String) (candidates : List Record)
    (exclude : List (String × String)) (fields : List String) : List Hit :=
  let query := String.ofList (Text.trim query.toList)
  if query.isEmpty || !s.available then []
  else
    candidates.zipIdx.filterMap fun (r, index) =>
      if exclude.contains r.key then none
      else do
        let b ← best? s query (fieldTexts r fields)
        let score ← policy.score? b.similarity
        return ⟨index, score, b.path, b.value⟩

end Dossier.Near
