import Dossier.Profile.Value

/-!
Finding values by dotted paths. A path leads from the sections of a profile through keys and
positions. A field that is no path of the profile may still name a value of its sections, once in
each of them.
-/

namespace Dossier

def splitDots : List Char → List (List Char)
  | [] => [[]]
  | c :: rest =>
    match splitDots rest with
    | s :: ss => if c = '.' then [] :: s :: ss else (c :: s) :: ss
    | [] => [[c]]

def segments (path : String) : List String := (splitDots path.toList).map String.ofList

/-- The position that a segment names: digits, after a plus sign that may be missing. -/
def position? (segment : String) : Option Nat :=
  let digits :=
    match segment.toList with
    | '+' :: rest => rest
    | cs => cs
  if digits.isEmpty || !digits.all Char.isDigit then none
  else
    let n := Decimal.ofDigits 0 digits
    if n < Number.limit then some n else none

namespace Value

/-- Follows one segment: into a mapping by key, into a sequence by position. -/
def step? (v : Value) (segment : String) : Option Value :=
  match v with
  | .scalar _ => none
  | .sequence items => (position? segment).bind (items[·]?)
  | .mapping entries => lookup? segment entries

def walk? (v : Value) : List String → Option Value
  | [] => some v
  | s :: rest => (v.step? s).bind (·.walk? rest)

end Value

namespace Profile

/-- The value at a path; its first segment names a section and is not empty. -/
def get? (p : Profile) (path : String) : Option Value :=
  match segments path with
  | [] => none
  | first :: rest =>
    if first.isEmpty then none else (lookup? first p.sections).bind (·.walk? rest)

/-- The values that a field may refer to, with their paths. -/
def occurrences (p : Profile) (field : String) : List (String × Value) :=
  match p.get? field with
  | some v => [(field, v)]
  | none =>
    if field.isEmpty then []
    else
      p.sections.filterMap fun (name, v) =>
        if v.isMapping then
          (v.walk? (segments field)).map fun found => (name ++ "." ++ field, found)
        else none

end Profile

example : segments "a..b" = ["a", "", "b"] := by decide

example : position? "+07" = some 7 ∧ position? "7a" = none ∧ position? "" = none := by
  decide +kernel

end Dossier
