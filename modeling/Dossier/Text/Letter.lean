import Dossier.Text.Letter.Table

/-!
Letters and digits. The classes are those of the tables; plain Latin characters are decided without
a table.
-/

namespace Dossier.Text

def isAlphabetic (c : Char) : Bool :=
  if c.toNat < 0x80 then c.isAlpha else alphabeticRanges.covers c.toNat

def isNumeric (c : Char) : Bool :=
  if c.toNat < 0x80 then c.isDigit else numericRanges.covers c.toNat

def isAlphanumeric (c : Char) : Bool := isAlphabetic c || isNumeric c

example : isAlphanumeric 'é' = true ∧ isAlphabetic '²' = false ∧ isNumeric '²' = true := by
  decide +kernel

end Dossier.Text
