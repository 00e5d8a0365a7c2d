import Dossier.Proofs.Query.Token
import Mathlib.Algebra.Group.Nat.Even
import Mathlib.Algebra.Ring.Parity

/-!
The errors of a query text. A closed quoted run holds two quotes, so that the number of quotes tells
whether the last of them is closed; a text of blanks has no quotes at all.
-/

namespace Dossier.Query

namespace Lexeme

variable {p : Nat} {cs before run : List Char} {field : Option (List Char)} {s : Scan}

theorem count_quote_of_isBare (h : IsBare run) : run.count '"' = 0 := by
  refine List.count_eq_zero.mpr fun mem => ?_
  exact absurd (h.2 '"' mem) (by decide)

theorem count_quote_of_opens (h : Opens before field) : before.count '"' = 0 := by
  cases h with
  | phrase => rfl
  | field isName => exact count_quote_of_isBare (isBare_of_opens (.field isName))

theorem count_quote_of_isBlank {c : Char} (h : Text.isBlank c = true) (cs : List Char) :
    (c :: cs).count '"' = cs.count '"' := by
  refine List.count_cons_of_ne ?_
  rintro rfl
  exact absurd h (by decide)

theorem openQuote_eq_none_iff (h : Splits p cs s) : s.openQuote = none ↔ Even (cs.count '"') := by
  induction h with
  | nil => simp
  | blank blank _ ih => rwa [count_quote_of_isBlank blank]
  | opening _ ih => rwa [List.count_cons_of_ne (by decide)]
  | closing _ ih => rwa [List.count_cons_of_ne (by decide)]
  | @quoted p before field content cs s opens closed _ ih =>
    have two : (before ++ '"' :: (content ++ '"' :: cs)).count '"' = cs.count '"' + 2 := by
      simp [count_quote_of_opens opens, List.count_eq_zero.mpr closed]
    rw [two, Nat.even_add]
    simpa [Scan.cons] using ih
  | @unclosed p before field content opens unclosed =>
    have one : (before ++ '"' :: content).count '"' = 1 := by
      simp [count_quote_of_opens opens, List.count_eq_zero.mpr unclosed]
    simp [one]
  | bare bare _ _ _ ih => rwa [List.count_append, count_quote_of_isBare bare, Nat.zero_add]

theorem IsLastQuote.unique {i j : Nat} (h : IsLastQuote p i cs) (h' : IsLastQuote p j cs) :
    i = j := by
  obtain ⟨front, after, eq, last, rfl⟩ := h
  obtain ⟨front', after', eq', last', rfl⟩ := h'
  -- Read backwards, the last quote is the first.
  have cut : splitQuote? cs.reverse = some (after.reverse, front.reverse) :=
    splitQuote?_eq_some_iff.mpr ⟨by simp [eq], by simpa using last⟩
  have cut' : splitQuote? cs.reverse = some (after'.reverse, front'.reverse) :=
    splitQuote?_eq_some_iff.mpr ⟨by simp [eq'], by simpa using last'⟩
  rw [cut] at cut'
  simp only [Option.some.injEq, Prod.mk.injEq, List.reverse_inj] at cut'
  rw [cut'.2]

theorem openQuote_scan_eq_none_iff :
    (scan p cs).openQuote = none ↔ Even (cs.count '"') :=
  openQuote_eq_none_iff (splits_scan p cs)

theorem openQuote_scan_eq_some_iff {position : Nat} :
    (scan p cs).openQuote = some position ↔
      Odd (cs.count '"') ∧ IsLastQuote p position cs := by
  rw [← Nat.not_even_iff_odd, ← openQuote_scan_eq_none_iff (p := p)]
  constructor
  · intro opened
    exact ⟨by simp [opened], isLastQuote_of_openQuote opened⟩
  · rintro ⟨some, last⟩
    obtain ⟨other, opened⟩ := Option.ne_none_iff_exists'.mp some
    rw [opened, (isLastQuote_of_openQuote opened).unique last]

end Lexeme

section Error

variable (text : String)

theorem error_parse_eq_empty_iff :
    (parse text).error = some .empty ↔ Text.isBlankText text.toList = true := by
  rw [error_parse]
  cases Text.isBlankText text.toList <;> simp

theorem error_parse_eq_unterminatedQuote_iff (position : Nat) :
    (parse text).error = some (.unterminatedQuote position) ↔
      (Lexeme.scan 0 text.toList).openQuote = some position := by
  rw [error_parse]
  cases blank : Text.isBlankText text.toList with
  | true => simp [Lexeme.scan_of_isBlankText 0 blank]
  | false => simp

theorem error_parse_eq_none_iff :
    (parse text).error = none ↔
      Text.isBlankText text.toList = false ∧ (Lexeme.scan 0 text.toList).openQuote = none := by
  rw [error_parse]
  cases Text.isBlankText text.toList <;> simp

end Error

/-- A text is empty if it has blanks only. It has an open quote just if its quotes are odd in
number, which then is the last of them; in all other cases there is no error. -/
theorem error_parse_iff (text : String) :
    ((parse text).error = some .empty ↔ ∀ c ∈ text.toList, Text.isBlank c = true) ∧
    ((∃ position, (parse text).error = some (.unterminatedQuote position)) ↔
      Odd (text.toList.count '"')) ∧
    (∀ position, (parse text).error = some (.unterminatedQuote position) ↔
      Odd (text.toList.count '"') ∧ Lexeme.IsLastQuote 0 position text.toList) ∧
    ((parse text).error = none ↔
      Even (text.toList.count '"') ∧ ∃ c ∈ text.toList, Text.isBlank c = false) := by
  have even : (Lexeme.scan 0 text.toList).openQuote = none ↔ Even (text.toList.count '"') :=
    Lexeme.openQuote_scan_eq_none_iff
  refine ⟨?_, ?_, ?_, ?_⟩
  · rw [error_parse_eq_empty_iff]
    exact List.all_eq_true
  · simp only [error_parse_eq_unterminatedQuote_iff]
    rw [← Option.isSome_iff_exists, Option.isSome_iff_ne_none, ne_eq, even, Nat.not_even_iff_odd]
  · intro position
    rw [error_parse_eq_unterminatedQuote_iff]
    exact Lexeme.openQuote_scan_eq_some_iff
  · rw [error_parse_eq_none_iff, even, and_comm]
    refine and_congr_right fun _ => ?_
    simp [Text.isBlankText]

example : (parse "(f:\"a b\" g:\"c").error = some (.unterminatedQuote 11) := by decide +kernel

end Dossier.Query
