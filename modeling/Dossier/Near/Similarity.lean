import Dossier.Text.Case
import Dossier.Text.Distance
import Dossier.Text.Normal

/-!
Similarity of texts, from zero to one. The measure is the edit distance in proportion to the longer
text, after composition of marks and with case set aside; an empty text is similar to nothing.
-/

namespace Dossier.Near

structure Similarity where
  name : String
  available : Bool
  measure : String → String → Option Float

namespace Similarity

def prepared (text : String) : List Char := Text.fold (Text.nfc text.toList)

def editMeasure (a b : String) : Option Float :=
  let a := prepared a
  let b := prepared b
  if a.isEmpty || b.isEmpty then none
  else
    some (1.0 - Float.ofNat (Text.distance a b) / Float.ofNat (Nat.max a.length b.length))

def edit : Similarity := ⟨"strsim", true, editMeasure⟩

def off : Similarity := ⟨"none", false, fun _ _ => none⟩

def select (enabled : Bool) : Similarity := if enabled then edit else off

end Similarity

end Dossier.Near
