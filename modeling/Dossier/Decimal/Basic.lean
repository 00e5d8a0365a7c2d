/-!
Decimals and the doubles nearest to them. A decimal is read exactly and rounded once, to nearest
with ties to even. The largest finite double has 309 digits before the point, the least positive
one has 323 zeros after it.
-/

namespace Dossier

structure Decimal where
  digits : Nat
  exponent : Int
  deriving DecidableEq, Repr

namespace Decimal

def length (n : Nat) : Nat := (Nat.toDigits 10 n).length

def digit? (c : Char) : Option Nat := if c.isDigit then some (c.toNat - '0'.toNat) else none

def ofDigits (n : Nat) (cs : List Char) : Nat :=
  cs.foldl (fun n c => 10 * n + (c.toNat - '0'.toNat)) n

def infinity : Float := 1.0 / 0.0

def nan : Float := 0.0 / 0.0

/-- The greater of two doubles; what is no number gives way to the other. -/
def greater (x y : Float) : Float := if x < y || x.isNaN then y else x

/-- The nearest double. Far outside the range of doubles no power is computed. -/
def toFloat (d : Decimal) : Float :=
  let top := d.exponent + length d.digits
  if d.digits = 0 || top < -400 then 0.0
  else if 400 < top then infinity
  else if 0 ≤ d.exponent then Float.ofScientific d.digits false d.exponent.toNat
  else Float.ofScientific d.digits true (-d.exponent).toNat

def readExponent? : List Char → Option Int
  | '-' :: cs => if !cs.isEmpty && cs.all Char.isDigit then some (-(ofDigits 0 cs : Int)) else none
  | '+' :: cs => if !cs.isEmpty && cs.all Char.isDigit then some (ofDigits 0 cs) else none
  | cs => if !cs.isEmpty && cs.all Char.isDigit then some (ofDigits 0 cs) else none

/-- Reads `12`, `12.`, `.5`, `1.5e-3`: digits around a point, of which one side may be empty, and
an exponent that may be missing. -/
def read? (cs : List Char) : Option Decimal :=
  let whole := cs.takeWhile Char.isDigit
  let (fraction, rest) :=
    match cs.dropWhile Char.isDigit with
    | '.' :: r => (r.takeWhile Char.isDigit, r.dropWhile Char.isDigit)
    | r => ([], r)
  if whole.isEmpty && fraction.isEmpty then none
  else
    let digits := ofDigits (ofDigits 0 whole) fraction
    match rest with
    | [] => some ⟨digits, -fraction.length⟩
    | e :: r =>
      if e = 'e' || e = 'E' then (readExponent? r).map fun n => ⟨digits, n - fraction.length⟩
      else none

/-- Reads a double with its sign; the words for infinity and for no number count, in any case. -/
def readFloat? (cs : List Char) : Option Float :=
  let (negative, cs) :=
    match cs with
    | '-' :: r => (true, r)
    | '+' :: r => (false, r)
    | r => (false, r)
  let magnitude :=
    match cs.map Char.toLower with
    | ['i', 'n', 'f'] | ['i', 'n', 'f', 'i', 'n', 'i', 't', 'y'] => some infinity
    | ['n', 'a', 'n'] => some nan
    | _ => (read? cs).map toFloat
  magnitude.map fun x => if negative then -x else x

example : read? "12.50e-3".toList = some ⟨1250, -5⟩ := by decide +kernel

example : read? ".".toList = none ∧ read? "1e".toList = none := by decide +kernel

end Decimal

end Dossier
