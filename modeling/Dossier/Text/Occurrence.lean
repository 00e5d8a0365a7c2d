/-!
The first occurrence of one text in another, counted in characters.
-/

namespace Dossier.Text

def occurrence? (needle : List Char) : List Char → Option Nat
  | [] => if needle.isEmpty then some 0 else none
  | c :: rest =>
    if needle.isPrefixOf (c :: rest) then some 0 else (occurrence? needle rest).map (· + 1)

/-- The first occurrence as a search among the bytes finds it: the characters before the place in
the bytes are counted. -/
def byteOccurrence? (needle text : String) : Option Nat :=
  (text.find? needle).map fun place => (text.sliceTo place).copy.length

def contains (cs needle : List Char) : Bool := (occurrence? needle cs).isSome

example : occurrence? "na".toList "banana".toList = some 2 := by decide

end Dossier.Text
