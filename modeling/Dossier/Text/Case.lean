import Dossier.Text.Case.Context
import Dossier.Text.Case.Table

/-!
Three ways to set case aside. `fold` keeps the number of characters, so that an index into the
folded text is one into the text; `lowercase` is the full lower case, in which a dotted capital I
gives two characters and a sigma at the end of a word its final form; `sameLetter` compares by
simple case folding.
-/

namespace Dossier.Text

/-- The first character of the lower case of `c`. -/
def foldChar (c : Char) : Char :=
  if c.toNat < 0x80 then c.toLower else Char.ofNat (moved lowerShifts c.toNat)

def fold (cs : List Char) : List Char := cs.map foldChar

theorem length_fold (cs : List Char) : (fold cs).length = cs.length := by simp [fold]

theorem fold_ne_nil {cs : List Char} (filled : cs ≠ []) : fold cs ≠ [] :=
  fun empty => filled (List.map_eq_nil_iff.mp empty)

/-- The character that stands for all that differ from `c` in case only. -/
def caseClass (c : Char) : Nat :=
  if c.toNat < 0x80 then c.toLower.toNat else moved foldShifts c.toNat

def sameLetter (c d : Char) : Bool := caseClass c == caseClass d

def nextIsCased (cs : List Char) : Bool :=
  match cs.dropWhile fun c => caseIgnorableRanges.covers c.toNat with
  | c :: _ => casedRanges.covers c.toNat
  | [] => false

/-- `before` is the text to the left of the character, read backwards. -/
def lowerIn (before : List Char) (c : Char) (after : List Char) : List Char :=
  if c = 'Σ' then
    if nextIsCased before && !nextIsCased after then ['ς'] else ['σ']
  else if c = 'İ' then ['i', '\u0307']
  else [foldChar c]

def lowercaseAfter (before : List Char) : List Char → List Char
  | [] => []
  | c :: rest => lowerIn before c rest ++ lowercaseAfter (c :: before) rest

def lowercase (cs : List Char) : List Char := lowercaseAfter [] cs

example : lowercase "ΣΑΣ İ".toList = "σας i\u0307".toList := by decide +kernel

example : fold "ΣΑΣ İ".toList = "σασ i".toList := by decide +kernel

example : sameLetter 'ς' 'Σ' = true ∧ sameLetter 'ß' 'ẞ' = true ∧ sameLetter 'ı' 'I' = false := by
  decide +kernel

end Dossier.Text
