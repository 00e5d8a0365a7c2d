import Dossier.Decimal.Basic

/-!
The shortest decimal that reads back as a given double. A finite double stands for the reals that
round to it; on the grids of one digit, two digits and so on the first point inside that interval
wins. Of two such points on one grid the nearer wins, and the upper one if they are equally near.
-/

namespace Dossier.Decimal

/-- The reals that round to `mid / unit` lie between `low / unit` and `high / unit`; the ends count
if `closed`. -/
structure Interval where
  low : Nat
  mid : Nat
  high : Nat
  unit : Nat
  closed : Bool
  deriving DecidableEq, Repr

namespace Interval

/-- The interval of `m · 2 ^ q`. Under a power of two the neighbour below is half as far away as
the one above. -/
def ofParts (m : Nat) (q : Int) (narrow : Bool) : Interval :=
  let s := Nat.pow 2 q.toNat
  ⟨(if narrow then 4 * m - 1 else 4 * m - 2) * s, 4 * m * s, (4 * m + 2) * s,
    4 * Nat.pow 2 (-q).toNat, m % 2 == 0⟩

def leadingBit : Nat := Nat.pow 2 52

def ofFloat (x : Float) : Interval :=
  let bits := x.toBits.toNat
  let e : Nat := bits / leadingBit % 2048
  let f : Nat := bits % leadingBit
  if e = 0 then ofParts f (-1074) false
  else ofParts (leadingBit + f) ((e : Int) - 1075) (f = 0 && 1 < e)

def inSteps (x : Interval) (p : Int) : Interval :=
  let up := Nat.pow 10 (-p).toNat
  ⟨x.low * up, x.mid * up, x.high * up, x.unit * Nat.pow 10 p.toNat, x.closed⟩

def holds (x : Interval) (d : Nat) : Bool :=
  let n := d * x.unit
  if x.closed then x.low ≤ n && n ≤ x.high else x.low < n && n < x.high

def nearest? (x : Interval) : Option Nat :=
  let d := x.mid / x.unit
  if x.holds d && (!x.holds (d + 1) || 2 * (x.mid % x.unit) < x.unit) then some d
  else if x.holds (d + 1) then some (d + 1)
  else none

/-- The least `k` for which the middle is below `10 ^ k`. -/
def scale (x : Interval) : Int :=
  if x.unit ≤ x.mid then length (x.mid / x.unit) else 1 - (length ((x.unit - 1) / x.mid) : Int)

def search (x : Interval) (p : Int) : Nat → Decimal
  | 0 => ⟨(x.inSteps p).mid / (x.inSteps p).unit, p⟩
  | n + 1 =>
    match (x.inSteps p).nearest? with
    | some d => ⟨d, p⟩
    | none => search x (p - 1) n

end Interval

/-- The shortest decimal that reads back as the magnitude of a finite double. The first grid has no
digits, for a double just under a power of ten; seventeen digits are always enough. -/
def shortest (x : Float) : Decimal :=
  let i := Interval.ofFloat x
  if i.mid = 0 then ⟨0, 0⟩ else i.search i.scale 18

def places (d : Decimal) : List Char × List Char :=
  let ds := Nat.toDigits 10 d.digits
  if 0 ≤ d.exponent then
    (if d.digits = 0 then ds else ds ++ List.replicate d.exponent.toNat '0', [])
  else
    let n := (-d.exponent).toNat
    let padded := List.replicate (n + 1 - ds.length) '0' ++ ds
    (padded.take (padded.length - n), padded.drop (padded.length - n))

def signBit : Nat := Nat.pow 2 63

def floatText (x : Float) : String :=
  if x.isNaN then "NaN"
  else
    let sign := if x.toBits.toNat < signBit then [] else ['-']
    if x.isInf then String.ofList (sign ++ ['i', 'n', 'f'])
    else
      let (whole, fraction) := (shortest x).places
      String.ofList (sign ++ whole ++ if fraction.isEmpty then [] else '.' :: fraction)

example : floatText 0.1 = "0.1" ∧ floatText (-0.0) = "-0" ∧ floatText 1e-7 = "0.0000001" := by
  decide +kernel

example : floatText 5e-324 = "0." ++ String.ofList (List.replicate 323 '0') ++ "5" := by
  decide +kernel

example : floatText 1e23 = "1" ++ String.ofList (List.replicate 23 '0') := by decide +kernel

end Dossier.Decimal
