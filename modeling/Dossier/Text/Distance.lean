/-!
Edit distance: the least number of insertions, deletions and replacements that turn one text into
the other. It is computed row by row.
-/

namespace Dossier.Text

/-- The next row of the table, left to right; `left` is the entry before it and `above` the rest of
the row over it, with the entry over `left` first. -/
def distanceCells (c : Char) (left : Nat) : List Char → List Nat → List Nat
  | d :: ds, corner :: up :: above =>
    let here := if c = d then corner else 1 + min corner (min up left)
    here :: distanceCells c here ds (up :: above)
  | _, _ => []

def distanceRow (b : List Char) (i : Nat) (c : Char) (row : List Nat) : List Nat :=
  (i + 1) :: distanceCells c (i + 1) b row

def distanceRows (b : List Char) : Nat → List Nat → List Char → List Nat
  | _, row, [] => row
  | i, row, c :: rest => distanceRows b (i + 1) (distanceRow b i c row) rest

def distance (a b : List Char) : Nat :=
  (distanceRows b 0 (List.range (b.length + 1)) a).getLast?.getD 0

example : distance "kitten".toList "sitting".toList = 3 := by decide

end Dossier.Text
