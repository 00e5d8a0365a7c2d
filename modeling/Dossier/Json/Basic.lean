import Dossier.Decimal.Basic
import Dossier.Dict

/-!
JSON values. A number written without fraction and exponent is whole if it fits 64 bits, signed or
unsigned; every other number is a double. The members of an object are ordered by their keys when
the object is read.
-/

namespace Dossier

inductive Number where
  | whole (n : Int)
  | double (x : Float)
  deriving Repr

inductive Json where
  | null
  | bool (b : Bool)
  | number (n : Number)
  | text (s : String)
  | array (items : List Json)
  | object (members : List (String × Json))

namespace Number

def limit : Nat := UInt64.size

def signedLimit : Nat := limit / 2

/-- Appends digits to `n` as long as the result fits; the second part counts the digits left. -/
def gather (n : Nat) : List Char → Nat × Nat
  | [] => (n, 0)
  | c :: cs =>
    let m := 10 * n + (c.toNat - '0'.toNat)
    if m < limit then gather m cs else (n, cs.length + 1)

/-- `x · 10 ^ e`, by one product or quotient with a power of ten; none beyond the doubles. Powers
above 308 are no doubles, so that a larger quotient takes two steps. -/
def scaled? (x : Float) (e : Int) : Option Float :=
  let power := fun n : Int => Float.ofScientific 1 false n.toNat
  if 308 < e then if x == 0 then some x else none
  else if 0 ≤ e then
    let y := x * power e
    if y.isInf then none else some y
  else if -308 ≤ e then some (x / power (-e))
  else if -616 ≤ e then some (x / power 308 / power (-e - 308))
  else some 0

/-- The number with the given sign, digits and exponent; the exponent is absent in a whole number,
as are the fraction and its point. None if it is beyond the doubles. -/
def ofParts? (negative : Bool) (whole : List Char) (fraction : Option (List Char))
    (exponent : Option Int) : Option Number :=
  let (n, dropped) := gather 0 whole
  let isWhole := fraction.isNone && exponent.isNone && dropped == 0
  if isWhole && (!negative || (0 < n && n ≤ signedLimit)) then
    some (.whole (if negative then -(n : Int) else n))
  else
    let digits := fraction.getD []
    let (m, left) := gather n digits
    let e := exponent.getD 0 + dropped - ((digits.length - left : Nat) : Int)
    (scaled? (Float.ofNat m) e).map fun x => .double (if negative then -x else x)

end Number

namespace Json

/-- The value of a member; none if this is no object, has no such member, or has null there. -/
def get? (j : Json) (key : String) : Option Json :=
  match j with
  | .object members =>
    match lookup? key members with
    | some .null => none
    | found => found
  | _ => none

def text? : Json → Option String
  | .text s => some s
  | _ => none

def bool? : Json → Option Bool
  | .bool b => some b
  | _ => none

def array? : Json → Option (List Json)
  | .array items => some items
  | _ => none

def count? : Json → Option Nat
  | .number (.whole n) => if 0 ≤ n && n < Number.limit then some n.toNat else none
  | _ => none

def double? : Json → Option Float
  | .number (.whole n) => some (Float.ofInt n)
  | .number (.double x) => some x
  | _ => none

def ofStrings (ss : List String) : Json := .array (ss.map .text)

def ofNat (n : Nat) : Json := .number (.whole n)

def ofOption {α : Type} (f : α → Json) : Option α → Json
  | some a => f a
  | none => .null

def ofDict {α : Type} (f : α → Json) (d : Dict α) : Json :=
  .object (d.entries.map fun e => (e.1, f e.2))

end Json

end Dossier
