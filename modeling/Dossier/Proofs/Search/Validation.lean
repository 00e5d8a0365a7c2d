import Dossier.Search.Request
import Mathlib.Data.String.Basic

/-!
The bounds on requests. A request is refused for the first bound that it breaks, and accepted if it
breaks none. The length of its text is announced in characters and measured in bytes, so that a text
with other characters than ASCII may be refused though it is short enough.
-/

namespace Dossier

section Bytes

variable (cs : List Char)

theorem length_le_utf8Len : cs.length ≤ String.utf8Len cs := by
  induction cs with
  | nil => exact Nat.le_refl 0
  | cons c rest ih =>
    have := c.utf8Size_pos
    rw [List.length_cons, String.utf8Len_cons]
    omega

theorem utf8Len_le : String.utf8Len cs ≤ 4 * cs.length := by
  induction cs with
  | nil => exact Nat.le_refl 0
  | cons c rest ih =>
    have := c.utf8Size_le_four
    rw [List.length_cons, String.utf8Len_cons]
    omega

theorem utf8Len_of_ascii {cs : List Char} (ascii : ∀ c ∈ cs, c.toNat < 0x80) :
    String.utf8Len cs = cs.length := by
  induction cs with
  | nil => rfl
  | cons c rest ih =>
    obtain ⟨first, later⟩ := List.forall_mem_cons.mp ascii
    have single : c.utf8Size = 1 := by
      rw [Char.utf8Size_eq_one_iff, UInt32.le_iff_toNat_le]
      exact Nat.le_of_lt_succ first
    rw [List.length_cons, String.utf8Len_cons, ih later, single]

end Bytes

namespace Request

variable {r : Request} {maxLimit : Nat}

structure KeepsBounds (r : Request) (maxLimit : Nat) : Prop where
  short : r.text.length ≤ 1000
  positive : 1 ≤ r.limit
  capped : r.limit ≤ maxLimit
  named : ∀ f ∈ r.fields, ∃ c ∈ f.toList, Text.isBlank c = false

inductive Breaks (r : Request) (maxLimit : Nat) : Refusal → Prop
  | length : maxLength < r.text.utf8ByteSize → Breaks r maxLimit .tooLong
  | limit : r.text.utf8ByteSize ≤ maxLength → r.limit < 1 ∨ maxLimit < r.limit →
      Breaks r maxLimit (.limitOutOfRange maxLimit)
  | field {f : String} : r.text.utf8ByteSize ≤ maxLength → 1 ≤ r.limit → r.limit ≤ maxLimit →
      f ∈ r.fields → (∀ c ∈ f.toList, Text.isBlank c = true) → Breaks r maxLimit .blankField

theorem any_isBlankText_iff {fields : List String} :
    (fields.any fun f => Text.isBlankText f.toList) = true ↔
      ∃ f ∈ fields, ∀ c ∈ f.toList, Text.isBlank c = true := by
  simp only [List.any_eq_true, Text.isBlankText, List.all_eq_true]

theorem refusal?_eq_some_iff {x : Refusal} :
    r.refusal? maxLimit = some x ↔ Breaks r maxLimit x := by
  unfold refusal?
  constructor
  · intro refused
    split at refused
    · rename_i long
      cases refused
      exact .length long
    rename_i short
    have short := Nat.le_of_not_lt short
    split at refused
    · rename_i outside
      cases refused
      simp only [Bool.or_eq_true, decide_eq_true_eq] at outside
      exact .limit short (by omega)
    rename_i inside
    simp only [Bool.or_eq_true, decide_eq_true_eq, not_or] at inside
    split at refused
    · rename_i blank
      cases refused
      obtain ⟨f, mem, blank⟩ := any_isBlankText_iff.mp blank
      exact .field short (by omega) (by omega) mem blank
    · cases refused
  · intro breaks
    cases breaks with
    | length long => rw [if_pos long]
    | limit short outside =>
      rw [if_neg (Nat.not_lt.mpr short), if_pos]
      simp only [Bool.or_eq_true, decide_eq_true_eq]
      omega
    | field short positive capped mem blank =>
      rw [if_neg (Nat.not_lt.mpr short), if_neg, if_pos (any_isBlankText_iff.mpr ⟨_, mem, blank⟩)]
      simp only [Bool.or_eq_true, decide_eq_true_eq]
      omega

theorem refusal?_eq_none_iff :
    r.refusal? maxLimit = none ↔ r.KeepsBounds maxLimit ∧ r.text.utf8ByteSize ≤ 1000 := by
  have chars : r.text.length ≤ r.text.utf8ByteSize := by
    rw [← String.length_toList, ← String.utf8Len_toList]
    exact length_le_utf8Len r.text.toList
  rw [Option.eq_none_iff_forall_ne_some]
  simp only [ne_eq, refusal?_eq_some_iff]
  constructor
  · intro keeps
    have short : r.text.utf8ByteSize ≤ 1000 := Nat.le_of_not_lt fun long => keeps _ (.length long)
    have inside : ¬(r.limit < 1 ∨ maxLimit < r.limit) := fun outside =>
      keeps _ (.limit short outside)
    refine ⟨⟨by omega, by omega, by omega, fun f mem => ?_⟩, short⟩
    by_contra blank
    push Not at blank
    exact keeps _ (.field short (by omega) (by omega) mem (by simpa using blank))
  · rintro ⟨keeps, short⟩ x breaks
    have := keeps.positive
    have := keeps.capped
    cases breaks with
    | length long => exact absurd short (Nat.not_le.mpr long)
    | limit _ outside => omega
    | field _ _ _ mem blank =>
      obtain ⟨c, inside, filled⟩ := keeps.named _ mem
      rw [blank c inside] at filled
      cases filled

theorem validate_eq_error_iff {e : SearchError} :
    r.validate maxLimit = .error e ↔ ∃ x, Breaks r maxLimit x ∧ e = .invalidInput x.message := by
  simp only [← refusal?_eq_some_iff, validate]
  cases r.refusal? maxLimit with
  | none => simp
  | some x => simp [eq_comm]

/-- Which requests are accepted. All of them keep the bounds, and of those that do just the ones are
refused whose text has more than 1000 bytes; a refusal gives the first bound that is broken. A text
of ASCII characters and one of at most 250 characters are measured as announced. -/
theorem validate_accepts_iff (r : Request) (maxLimit : Nat) :
    (r.validate maxLimit = .ok () ↔ r.KeepsBounds maxLimit ∧ r.text.utf8ByteSize ≤ 1000) ∧
    (∀ e, r.validate maxLimit = .error e ↔
      ∃ x, Breaks r maxLimit x ∧ e = .invalidInput x.message) ∧
    ((∀ c ∈ r.text.toList, c.toNat < 0x80) ∨ r.text.length ≤ 250 →
      (r.validate maxLimit = .ok () ↔ r.KeepsBounds maxLimit)) := by
  have accepts : r.validate maxLimit = .ok () ↔
      r.KeepsBounds maxLimit ∧ r.text.utf8ByteSize ≤ 1000 := by
    rw [← refusal?_eq_none_iff, validate]
    cases r.refusal? maxLimit with
    | none => simp
    | some x => simp
  refine ⟨accepts, fun e => validate_eq_error_iff, fun plain => ?_⟩
  rw [accepts]
  refine and_iff_left_of_imp fun keeps => ?_
  rw [← String.utf8Len_toList]
  rcases plain with ascii | brief
  · rw [utf8Len_of_ascii ascii, String.length_toList]
    exact keeps.short
  · have four := utf8Len_le r.text.toList
    rw [String.length_toList] at four
    omega

/-- A text of 501 letters of two bytes is told to have more than 1000 characters. -/
theorem two_byte_text_refused :
    let r := Request.ofText (String.ofList (List.replicate 501 'é'))
    r.text.length = 501 ∧ r.KeepsBounds 200 ∧
      r.validate 200 = .error (.invalidInput "Query too long, maximum 1000 characters") ∧
      ¬(r.validate 200 = .ok () ↔ r.KeepsBounds 200) := by
  intro r
  have text : r.text = String.ofList (List.replicate 501 'é') := rfl
  have chars : r.text.length = 501 := by
    rw [text, ← String.length_toList, String.toList_ofList, List.length_replicate]
  have bytes : r.text.utf8ByteSize = 1002 := by
    rw [text, String.utf8ByteSize_ofList]
    decide +kernel
  have size : r.limit = 20 := rfl
  have unnamed : r.fields = [] := rfl
  have told : Refusal.tooLong.message = "Query too long, maximum 1000 characters" := by
    decide +kernel
  -- From here on the text counts by its two lengths only.
  clear_value r
  have long : maxLength < r.text.utf8ByteSize := by
    rw [bytes]
    decide
  have keeps : r.KeepsBounds 200 := by
    refine ⟨by omega, by omega, by omega, fun f mem => ?_⟩
    rw [unnamed] at mem
    cases mem
  have refused : r.validate 200 =
      .error (.invalidInput "Query too long, maximum 1000 characters") := by
    rw [← told]
    exact validate_eq_error_iff.mpr ⟨_, .length long, rfl⟩
  refine ⟨chars, keeps, refused, fun same => ?_⟩
  have accepted := same.mpr keeps
  rw [refused] at accepted
  cases accepted

end Request

end Dossier
