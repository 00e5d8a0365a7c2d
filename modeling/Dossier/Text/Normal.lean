import Dossier.Text.Normal.Class
import Dossier.Text.Normal.Compatible
import Dossier.Text.Normal.OneWay
import Dossier.Text.Normal.Pairs

/-!
Normal forms C and KC. A text is decomposed to the end, its marks are put into canonical order, and
pairs are composed again from the left. Hangul syllables are computed, all else is in the tables.
-/

namespace Dossier.Text

/-- Which decompositions count: the canonical ones, or the compatible ones too. -/
inductive Equivalence
  | canonical
  | compatible
  deriving DecidableEq, Repr

/-- A Hangul syllable is 0xAC00 + (21 · leading + vowel) · 28 + trailing. -/
def hangulParts (n : Nat) : List Nat :=
  let s := n - 0xAC00
  let lv := [0x1100 + s / 588, 0x1161 + s % 588 / 28]
  if s % 28 = 0 then lv else lv ++ [0x11A7 + s % 28]

def parts (e : Equivalence) (n : Nat) : Option (List Nat) :=
  if n < 0xA0 then none
  else if 0xAC00 ≤ n && n ≤ 0xD7A3 then some (hangulParts n)
  else
    match primaryPairs.find? (·.1 == n) with
    | some (_, a, b) => some [a, b]
    | none =>
      match Span.find? oneWaySpans n with
      | some ns => some ns
      | none =>
        match e with
        | .canonical => none
        | .compatible => Span.find? compatibleSpans n

/-- Decomposition repeated at most `depth` times. -/
def decompose (e : Equivalence) : Nat → Nat → List Nat
  | 0, n => [n]
  | depth + 1, n =>
    match parts e n with
    | some ns => ns.flatMap (decompose e depth)
    | none => [n]

def combiningClass (n : Nat) : Nat :=
  if n < 0x300 then 0
  else
    match combiningRows.find? fun (_, hi, _) => n ≤ hi with
    | some (lo, _, k) => if lo ≤ n then k else 0
    | none => 0

/-- Puts a character before the marks that follow it, past those of a lower class. -/
def insertMark (n : Nat) : List Nat → List Nat
  | [] => [n]
  | m :: rest =>
    if combiningClass m ≠ 0 && combiningClass m < combiningClass n then m :: insertMark n rest
    else n :: m :: rest

def reorder (ns : List Nat) : List Nat := ns.foldr insertMark []

def composite (a b : Nat) : Option Nat :=
  if b < 0x300 then none
  else if 0x1100 ≤ a && a ≤ 0x1112 && 0x1161 ≤ b && b ≤ 0x1175 then
    some (0xAC00 + ((a - 0x1100) * 21 + (b - 0x1161)) * 28)
  else if 0xAC00 ≤ a && a ≤ 0xD7A3 && (a - 0xAC00) % 28 == 0 && 0x11A8 ≤ b && b ≤ 0x11C2 then
    some (a + (b - 0x11A7))
  else (primaryPairs.find? fun (_, x, y) => x == a && y == b).map (·.1)

/-- `starter` waits for marks to compose with; `marks` are those after it that did not, last first.
A mark is blocked by one of its own class, a starter by any mark. -/
def composeFrom (starter : Nat) (marks : List Nat) : List Nat → List Nat
  | [] => starter :: marks.reverse
  | n :: rest =>
    let blocked :=
      match marks with
      | [] => false
      | m :: _ => combiningClass n ≤ combiningClass m
    match if blocked then none else composite starter n with
    | some c => composeFrom c marks rest
    | none =>
      if combiningClass n = 0 then starter :: marks.reverse ++ composeFrom n [] rest
      else composeFrom starter (n :: marks) rest

def compose : List Nat → List Nat
  | [] => []
  | n :: rest =>
    if combiningClass n = 0 then composeFrom n [] rest else n :: compose rest

def normalize (e : Equivalence) (cs : List Char) : List Char :=
  (compose (reorder (cs.flatMap fun c => decompose e 4 c.toNat))).map Char.ofNat

def nfc (cs : List Char) : List Char := normalize .canonical cs

def nfkc (cs : List Char) : List Char := normalize .compatible cs

example : nfkc "ﬁ\u0041\u030a각".toList = "fi\u00c5각".toList := by decide +kernel

end Dossier.Text
