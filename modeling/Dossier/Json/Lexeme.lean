import Dossier.Json.Basic

/-!
The lexemes of a JSON text. Whether a flaw in one is a fault depends on whether it is read or
skipped, so that a lexeme keeps its flaw, and the scan stops at the first one without an end.
-/

namespace Dossier

/-- What may be wrong with a text: it ends early, it is no JSON, or it is JSON of another shape
than the one asked for. -/
inductive Fault where
  | cutShort
  | malformed
  | mismatched
  deriving DecidableEq, Repr

structure Break where
  reading : Fault
  skipping : Fault
  deriving DecidableEq, Repr

namespace Break

def cutShort : Break := ⟨.cutShort, .cutShort⟩

def malformed : Break := ⟨.malformed, .malformed⟩

def unfinished (rest : List Char) : Break :=
  if rest.isEmpty then ⟨.cutShort, .malformed⟩ else .malformed

end Break

inductive Mark where
  | openArray
  | closeArray
  | openObject
  | closeObject
  | colon
  | comma
  deriving DecidableEq, Repr

/-- Texts and numbers that are complete may still have no value: a surrogate without its partner, a
number beyond the doubles. That is a fault only for one who reads them. -/
inductive Lexeme where
  | mark (m : Mark)
  | null
  | bool (b : Bool)
  | number (n : Except Fault Number)
  | text (s : Except Fault String)
  | cutText (b : Break)
  | cut (b : Break)

namespace Lexeme

/-- A lexeme without a value ends the scan; a complete one leaves the rest of the text. -/
inductive Scan where
  | complete (l : Lexeme) (rest : List Char)
  | stopped (l : Lexeme)

def hexDigit? (c : Char) : Option Nat :=
  if c.isDigit then some (c.toNat - 48)
  else if 'a' ≤ c && c ≤ 'f' then some (c.toNat - 87)
  else if 'A' ≤ c && c ≤ 'F' then some (c.toNat - 55)
  else none

def hex? (a b c d : Char) : Option Nat := do
  let a ← hexDigit? a
  let b ← hexDigit? b
  let c ← hexDigit? c
  let d ← hexDigit? d
  return ((a * 16 + b) * 16 + c) * 16 + d

def escaped? : Char → Option Char
  | '"' => some '"'
  | '\\' => some '\\'
  | '/' => some '/'
  | 'b' => some '\x08'
  | 'f' => some '\x0c'
  | 'n' => some '\n'
  | 'r' => some '\r'
  | 't' => some '\t'
  | _ => none

def isHighSurrogate (n : Nat) : Bool := 0xD800 ≤ n && n ≤ 0xDBFF

def isLowSurrogate (n : Nat) : Bool := 0xDC00 ≤ n && n ≤ 0xDFFF

def shortEscape (rest : List Char) : Fault :=
  if (String.ofList (rest.take 4)).utf8ByteSize < 4 then .cutShort else .malformed

def stopText (lone : Bool) (f : Fault) : Scan :=
  .stopped (.cutText ⟨if lone then .malformed else f, f⟩)

/-- Reads a text after its opening quote. `out` holds its characters, last first; `high` is the
surrogate just read, which waits for its partner; `lone` is set once one was left without. -/
def textFrom (out : List Char) (high : Option Nat) (lone : Bool) : List Char → Scan
  | '"' :: rest =>
    let value := if lone || high.isSome then .error .malformed else .ok (String.ofList out.reverse)
    .complete (.text value) rest
  | '\\' :: 'u' :: a :: b :: c :: d :: rest =>
    match hex? a b c d, high with
    | none, _ => stopText lone .malformed
    | some n, some h =>
      let code := 0x10000 + (h - 0xD800) * 0x400 + (n - 0xDC00)
      textFrom (Char.ofNat code :: out) none (lone || !isLowSurrogate n) rest
    | some n, none =>
      if isHighSurrogate n then textFrom out (some n) lone rest
      else textFrom (Char.ofNat n :: out) none (lone || isLowSurrogate n) rest
  | '\\' :: 'u' :: rest => stopText lone (shortEscape rest)
  | '\\' :: e :: rest =>
    match escaped? e with
    | some c => textFrom (c :: out) none (lone || high.isSome) rest
    | none => stopText lone .malformed
  | ['\\'] | [] => stopText lone .cutShort
  | c :: rest =>
    if c.toNat < 0x20 then stopText lone .malformed
    else textFrom (c :: out) none (lone || high.isSome) rest

def splitSign : List Char → Int × List Char
  | '-' :: rest => (-1, rest)
  | '+' :: rest => (1, rest)
  | rest => (1, rest)

def splitFraction : List Char → Option (List Char) × List Char
  | '.' :: rest => (some (rest.takeWhile Char.isDigit), rest.dropWhile Char.isDigit)
  | rest => (none, rest)

def splitExponent : List Char → Option (Int × List Char) × List Char
  | [] => (none, [])
  | e :: rest =>
    if e = 'e' || e = 'E' then
      let (sign, digits) := splitSign rest
      (some (sign, digits.takeWhile Char.isDigit), digits.dropWhile Char.isDigit)
    else (none, e :: rest)

def numberFrom (negative : Bool) (cs : List Char) : Scan :=
  let whole := cs.takeWhile Char.isDigit
  let afterWhole := cs.dropWhile Char.isDigit
  let (fraction, afterFraction) := splitFraction afterWhole
  let (exponent, rest) := splitExponent afterFraction
  if whole.isEmpty then .stopped (.cut (.unfinished afterWhole))
  else if 1 < whole.length && whole.head? == some '0' then .stopped (.cut .malformed)
  else if fraction == some [] then .stopped (.cut (.unfinished afterFraction))
  else if exponent.any (·.2.isEmpty) then .stopped (.cut (.unfinished rest))
  else
    let power := exponent.map fun (sign, digits) => sign * (Decimal.ofDigits 0 digits : Int)
    match Number.ofParts? negative whole fraction power with
    | some n => .complete (.number (.ok n)) rest
    | none => .complete (.number (.error .malformed)) rest

def wordFrom (l : Lexeme) : List Char → List Char → Scan
  | [], rest => .complete l rest
  | _ :: _, [] => .stopped (.cut .cutShort)
  | w :: ws, c :: cs => if w = c then wordFrom l ws cs else .stopped (.cut .malformed)

def isSpace (c : Char) : Bool := c = ' ' || c = '\n' || c = '\t' || c = '\r'

def scanOne (c : Char) (rest : List Char) : Scan :=
  match c with
  | '[' => .complete (.mark .openArray) rest
  | ']' => .complete (.mark .closeArray) rest
  | '\x7b' => .complete (.mark .openObject) rest
  | '\x7d' => .complete (.mark .closeObject) rest
  | ':' => .complete (.mark .colon) rest
  | ',' => .complete (.mark .comma) rest
  | '"' => textFrom [] none false rest
  | 'n' => wordFrom .null ['u', 'l', 'l'] rest
  | 't' => wordFrom (.bool true) ['r', 'u', 'e'] rest
  | 'f' => wordFrom (.bool false) ['a', 'l', 's', 'e'] rest
  | '-' => numberFrom true rest
  | _ => if c.isDigit then numberFrom false (c :: rest) else .stopped (.cut .malformed)

theorem length_textFrom {out : List Char} {high : Option Nat} {lone : Bool} {cs r : List Char}
    {l : Lexeme} (h : textFrom out high lone cs = .complete l r) : r.length < cs.length := by
  fun_induction textFrom out high lone cs <;> simp_all [stopText] <;> grind

theorem length_wordFrom {l m : Lexeme} {ws cs r : List Char}
    (h : wordFrom l ws cs = .complete m r) : r.length ≤ cs.length := by
  fun_induction wordFrom l ws cs <;> simp_all
  omega

theorem length_splitSign (cs : List Char) : (splitSign cs).2.length ≤ cs.length := by
  unfold splitSign; split <;> simp

theorem length_splitFraction (cs : List Char) : (splitFraction cs).2.length ≤ cs.length := by
  unfold splitFraction
  split
  · exact Nat.le_succ_of_le (List.dropWhile_suffix _).length_le
  · exact Nat.le_refl _

theorem length_splitExponent (cs : List Char) : (splitExponent cs).2.length ≤ cs.length := by
  unfold splitExponent
  split
  · exact Nat.le_refl _
  · split
    · exact Nat.le_succ_of_le <|
        Nat.le_trans (List.dropWhile_suffix _).length_le (length_splitSign _)
    · exact Nat.le_refl _

theorem length_numberFrom {negative : Bool} {cs r : List Char} {l : Lexeme}
    (h : numberFrom negative cs = .complete l r) : r.length < cs.length := by
  have digits : cs.takeWhile Char.isDigit ≠ [] →
      (cs.dropWhile Char.isDigit).length < cs.length := by
    intro some
    have := congrArg List.length (List.takeWhile_append_dropWhile (p := Char.isDigit) (l := cs))
    have := List.length_pos_iff.2 some
    simp only [List.length_append] at *
    omega
  have rest := Nat.le_trans (length_splitExponent (splitFraction (cs.dropWhile Char.isDigit)).2)
    (length_splitFraction (cs.dropWhile Char.isDigit))
  unfold numberFrom at h
  simp only at h
  split at h
  · simp at h
  · rename_i filled
    have := digits (by simpa using filled)
    split at h <;> try simp at h
    split at h <;> try simp at h
    split at h <;> try simp at h
    split at h <;> simp at h <;> rw [← h.2] <;> omega

theorem length_scanOne {c : Char} {cs r : List Char} {l : Lexeme}
    (h : scanOne c cs = .complete l r) : r.length ≤ cs.length := by
  unfold scanOne at h
  split at h
  all_goals try simp at h
  all_goals try exact Nat.le_of_eq (congrArg List.length h.2.symm)
  · exact Nat.le_of_lt (length_textFrom h)
  · exact length_wordFrom h
  · exact length_wordFrom h
  · exact length_wordFrom h
  · exact Nat.le_of_lt (length_numberFrom h)
  · split at h
    · exact Nat.le_of_lt_succ (length_numberFrom h)
    · simp at h

/-- The lexemes of a text up to the first that has no value. -/
def scan : List Char → List Lexeme
  | [] => []
  | c :: cs =>
    if isSpace c then scan cs
    else
      match h : scanOne c cs with
      | .complete l rest =>
        have := length_scanOne h
        l :: scan rest
      | .stopped l => [l]
termination_by cs => cs.length
decreasing_by all_goals simp; try omega

end Lexeme

end Dossier
