import Dossier.Decimal.Basic
import Dossier.Text.Blank

/-!
Instants of universal time, read from and written as date, time and offset. Reading is lenient
about blanks and leading zeros, and takes sixty as the number of a leap second; a fraction is cut
to nanoseconds. Writing has one form for each instant.
-/

namespace Dossier

structure Date where
  year : Int
  month : Nat
  day : Nat
  deriving DecidableEq, Repr

namespace Date

def isLeapYear (year : Int) : Bool := year % 4 == 0 && (year % 100 != 0 || year % 400 == 0)

def daysIn (year : Int) (month : Nat) : Nat :=
  match month with
  | 2 => if isLeapYear year then 29 else 28
  | 4 | 6 | 9 | 11 => 30
  | _ => 31

def minYear : Int := -262143

def maxYear : Int := 262142

def isValid (d : Date) : Bool :=
  minYear ≤ d.year && d.year ≤ maxYear && 1 ≤ d.month && d.month ≤ 12 && 1 ≤ d.day &&
    d.day ≤ daysIn d.year d.month

def next (d : Date) : Date :=
  if d.day < daysIn d.year d.month then ⟨d.year, d.month, d.day + 1⟩
  else if d.month < 12 then ⟨d.year, d.month + 1, 1⟩
  else ⟨d.year + 1, 1, 1⟩

def previous (d : Date) : Date :=
  if 1 < d.day then ⟨d.year, d.month, d.day - 1⟩
  else if 1 < d.month then ⟨d.year, d.month - 1, daysIn d.year (d.month - 1)⟩
  else ⟨d.year - 1, 12, 31⟩

end Date

/-- A second of the day counts from zero; a leap second follows the second it is counted with. -/
structure Timestamp where
  date : Date
  second : Nat
  nanosecond : Nat
  leap : Bool
  deriving DecidableEq, Repr

namespace Timestamp

def secondsPerDay : Nat := 24 * 60 * 60

abbrev Reader := StateT (List Char) Option

namespace Reader

def blanks : Reader Unit := modify Text.trimStart

def number (most : Nat) : Reader Nat := do
  let cs ← get
  let digits := (cs.takeWhile Char.isDigit).take most
  if digits.isEmpty then failure
  set (cs.drop digits.length)
  return Decimal.ofDigits 0 digits

def oneOf (cs : List Char) : Reader Char := do
  match ← get with
  | c :: rest =>
    if cs.contains c then
      set rest
      return c
    else failure
  | [] => failure

/-- A year has four digits at most, unless it has a sign. -/
def year : Reader Int := do
  blanks
  match ← get with
  | '-' :: rest => do
    set rest
    return -((← number rest.length) : Int)
  | '+' :: rest => do
    set rest
    number rest.length
  | _ => number 4

def twoDigits : Reader Nat := do
  blanks
  number 2

def separated (c : Char) : Reader Nat := do
  blanks
  let _ ← oneOf [c]
  twoDigits

def fraction : Reader Nat := do
  match ← get with
  | '.' :: rest =>
    let digits := rest.takeWhile Char.isDigit
    if digits.isEmpty then failure
    set (rest.drop digits.length)
    let kept := digits.take 9
    return Decimal.ofDigits 0 kept * Nat.pow 10 (9 - kept.length)
  | _ => return 0

def exactlyTwoDigits : Reader Nat := do
  match ← get with
  | a :: b :: rest =>
    if a.isDigit && b.isDigit then
      set rest
      return Decimal.ofDigits 0 [a, b]
    else failure
  | _ => failure

/-- The seconds by which the time is ahead of universal time. -/
def offset : Reader Int := do
  blanks
  match ← get with
  | u :: t :: c :: rest =>
    if [u, t, c].map Char.toUpper = ['U', 'T', 'C'] then
      set rest
      return 0
  | _ => pure ()
  match ← oneOf ['Z', 'z', '+', '-', '−'] with
  | 'Z' | 'z' => return 0
  | sign =>
    let hours ← exactlyTwoDigits
    modify (·.dropWhile fun c => c = ':' || Text.isBlank c)
    let minutes ← exactlyTwoDigits
    if 60 ≤ minutes then failure
    let seconds : Int := ((hours * 60 + minutes) * 60 : Nat)
    return if sign = '+' then seconds else -seconds

end Reader

def toUniversal (date : Date) (second : Nat) (offset : Int) : Date × Nat :=
  let s : Int := second - offset
  if s < 0 then (date.previous, (s + secondsPerDay).toNat)
  else if secondsPerDay ≤ s then (date.next, (s - secondsPerDay).toNat)
  else (date, s.toNat)

def reader : Reader Timestamp := do
  let date : Date := ⟨← Reader.year, ← Reader.separated '-', ← Reader.separated '-'⟩
  let _ ← Reader.oneOf ['T', 't', ' ']
  let hour ← Reader.twoDigits
  let minute ← Reader.separated ':'
  let second ← Reader.separated ':'
  let nanosecond ← Reader.fraction
  let offset ← Reader.offset
  Reader.blanks
  if !date.isValid || 24 ≤ hour || 60 ≤ minute || 61 ≤ second then failure
  if (secondsPerDay : Int) ≤ offset.natAbs then failure
  let leap := second == 60
  let (day, s) :=
    toUniversal date ((hour * 60 + minute) * 60 + if leap then 59 else second) offset
  if !day.isValid then failure
  return ⟨day, s, nanosecond, leap⟩

def read? (s : String) : Option Timestamp :=
  match reader.run s.toList with
  | some (t, []) => some t
  | _ => none

def padded (width n : Nat) : List Char :=
  let digits := Nat.toDigits 10 n
  List.replicate (width - digits.length) '0' ++ digits

/-- Years outside of four digits have a sign. -/
def yearText (year : Int) : List Char :=
  if 0 ≤ year && year ≤ 9999 then padded 4 year.toNat
  else (if year < 0 then '-' else '+') :: padded 4 year.natAbs

/-- The shortest of no, three, six and nine digits that is exact. -/
def fractionText (nanosecond : Nat) : List Char :=
  if nanosecond = 0 then []
  else if nanosecond % 1000000 = 0 then '.' :: padded 3 (nanosecond / 1000000)
  else if nanosecond % 1000 = 0 then '.' :: padded 6 (nanosecond / 1000)
  else '.' :: padded 9 nanosecond

def render (t : Timestamp) : String :=
  let second := t.second % 60 + if t.leap then 1 else 0
  String.ofList <|
    yearText t.date.year ++ '-' :: padded 2 t.date.month ++ '-' :: padded 2 t.date.day ++
      'T' :: padded 2 (t.second / 3600) ++ ':' :: padded 2 (t.second / 60 % 60) ++
      ':' :: padded 2 second ++ fractionText t.nanosecond ++ ['Z']

example : (read? "2024-02-29T23:59:60.5-01:30").map render = some "2024-03-01T01:29:60.500Z" := by
  decide +kernel

example : read? "2023-02-29T00:00:00Z" = none ∧ read? "2023-02-28T00:00:00" = none := by
  decide +kernel

end Timestamp

end Dossier
