/-!
Tables over code points. A property of characters is a list of inclusive ranges in increasing
order; a map that moves characters is a list of shifts; a map to anything else is a list of spans
of consecutive characters. Look-ups stop at the first row past the character.
-/

namespace Dossier.Text

/-- Inclusive ranges of code points, in increasing order. -/
abbrev Ranges := List (Nat × Nat)

def Ranges.covers : Ranges → Nat → Bool
  | [], _ => false
  | (lo, hi) :: rest, n => lo ≤ n && (n ≤ hi || Ranges.covers rest n)

/-- Every `step`-th character from `first` to `last` moves, and `first` moves to `target`. -/
structure Shift where
  first : Nat
  last : Nat
  step : Nat
  target : Nat
  deriving DecidableEq, Repr

def Shift.applies (s : Shift) (n : Nat) : Bool :=
  s.first ≤ n && n ≤ s.last && (n - s.first) % s.step == 0

def moved (shifts : List Shift) (n : Nat) : Nat :=
  match shifts.find? (·.applies n) with
  | some s => n - s.first + s.target
  | none => n

/-- One row for each of the characters `first`, `first + 1`, … -/
structure Span (α : Type) where
  first : Nat
  last : Nat
  rows : List α

def Span.find? {α : Type} : List (Span α) → Nat → Option α
  | [], _ => none
  | s :: rest, n =>
    if n < s.first then none
    else if n ≤ s.last then s.rows[n - s.first]?
    else Span.find? rest n

end Dossier.Text
