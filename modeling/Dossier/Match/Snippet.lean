import Dossier.Text.Case
import Dossier.Text.Occurrence

/-!
Snippets of matching texts. An exact one marks the first occurrence and keeps a window of context to
each side; an approximate one points at nothing and carries the text behind a marker.
-/

namespace Dossier.Snippet

def mark : List Char := ['*', '*']

def ellipsis : List Char := ['.', '.', '.']

def approximateMarker : List Char := ['≈', ' ']

def defaultContext : Nat := 50

/-- The position of the first occurrence, case set aside; an empty needle occurs nowhere. -/
def find? (text needle : List Char) : Option Nat :=
  if needle.isEmpty then none else Text.occurrence? (Text.fold needle) (Text.fold text)

def window (text : List Char) (start length context : Nat) : List Char :=
  let before := text.take start
  let after := text.drop (start + length)
  (if context < start then ellipsis else []) ++ before.drop (start - context) ++ mark ++
    (text.drop start).take length ++ mark ++ after.take context ++
    if context < after.length then ellipsis else []

/-- The first occurrence in its context. The end of the window is a position of 64 bits, beyond
which there is no snippet. -/
def marked? (text needle : List Char) (context : Nat) : Option (List Char) :=
  match find? text needle with
  | none => none
  | some start =>
    if start + needle.length + context < UInt64.size then
      some (window text start needle.length context)
    else none

/-- What ends the program while a snippet is cut: a position beyond 64 bits, or a part that the text
does not have. -/
inductive Abort where
  | overflow
  | outside
  deriving DecidableEq, Repr

def add (i j : Nat) : Except Abort Nat :=
  if i + j < UInt64.size then .ok (i + j) else .error .overflow

def between (cs : List Char) (i j : Nat) : Except Abort (List Char) :=
  if i ≤ j ∧ j ≤ cs.length then .ok ((cs.take j).drop i) else .error .outside

/-- The window around `length` characters at `start`, cut position by position. -/
def cutWindow (text : List Char) (start length context : Nat) : Except Abort (List Char) := do
  let first := start - context
  let stop ← add start length
  let last := Nat.min (← add stop context) text.length
  let before ← between text first start
  let span ← between text start stop
  let after ← between text stop last
  return (if 0 < first then ellipsis else []) ++ before ++ mark ++ span ++ mark ++ after ++
    if last < text.length then ellipsis else []

/-- The first occurrence in its context, found by its place in the bytes and cut position by
position. Where `marked?` has no snippet for an end beyond 64 bits, the program ends. -/
def cut (text needle : List Char) (context : Nat) : Except Abort (Option (List Char)) :=
  let sought := Text.fold needle
  if sought.isEmpty then .ok none
  else
    match Text.byteOccurrence? (String.ofList sought) (String.ofList (Text.fold text)) with
    | none => .ok none
    | some start => (cutWindow text start needle.length context).map some

/-- The text behind the marker, cut to twice the context. -/
def approximate (text : List Char) (context : Nat) : List Char :=
  let most := Nat.max 1 (2 * context)
  approximateMarker ++ if most < text.length then text.take most ++ ellipsis else text

def isApproximate (snippet : List Char) : Bool := approximateMarker.isPrefixOf snippet

example : marked? "ALICE in wonderland".toList "alice".toList 10 =
    some "**ALICE** in wonder...".toList := by decide +kernel

end Dossier.Snippet
