import Dossier.Match.Pattern
import Dossier.Proofs.Text.Occurrence

/-!
Where a needle stands in a text. The grade of a plain pattern says whether the needle is the whole
text, its beginning, or some other part of it; an empty needle stands nowhere.
-/

namespace Dossier.Pattern

/-- How a needle stands in a text: what each grade says. -/
inductive Stands (needle text : List Char) : Grade → Prop where
  | whole : needle ≠ [] → text = needle → Stands needle text .whole
  | start : needle ≠ [] → text ≠ needle → needle <+: text → Stands needle text .start
  | inside : needle ≠ [] → ¬needle <+: text → needle <:+: text → Stands needle text .inside
  | nowhere : (needle ≠ [] → ¬needle <:+: text) → Stands needle text .miss

variable {needle text : List Char}

theorem stands_plainGrade (needle text : List Char) :
    Stands needle text (plainGrade needle text) := by
  unfold plainGrade
  split
  · rename_i empty
    exact .nowhere fun filled => absurd (List.isEmpty_iff.mp empty) filled
  · rename_i filled
    rw [List.isEmpty_iff] at filled
    split
    · rename_i whole
      exact .whole filled whole
    · rename_i other
      split
      · rename_i begins
        exact .start filled other (List.isPrefixOf_iff_prefix.mp begins)
      · rename_i not_start
        rw [List.isPrefixOf_iff_prefix] at not_start
        split
        · rename_i inside
          exact .inside filled not_start (Text.contains_iff_infix.mp inside)
        · rename_i not_inside
          exact .nowhere fun _ part => not_inside (Text.contains_iff_infix.mpr part)

theorem plainGrade_eq_whole_iff :
    plainGrade needle text = .whole ↔ needle ≠ [] ∧ text = needle := by
  have stands := stands_plainGrade needle text
  generalize plainGrade needle text = g at stands
  cases stands with
  | whole filled whole => exact iff_of_true rfl ⟨filled, whole⟩
  | start _ other _ => exact iff_of_false (fun same => by cases same) fun h => other h.2
  | inside _ not_start _ =>
    exact iff_of_false (fun same => by cases same) fun h => not_start (h.2 ▸ List.prefix_rfl)
  | nowhere absent =>
    exact iff_of_false (fun same => by cases same) fun h => absent h.1 (h.2 ▸ List.infix_rfl)

theorem start_le_plainGrade_iff :
    Grade.start.rank ≤ (plainGrade needle text).rank ↔ needle ≠ [] ∧ needle <+: text := by
  have stands := stands_plainGrade needle text
  generalize plainGrade needle text = g at stands
  cases stands with
  | whole filled whole => exact iff_of_true (by decide) ⟨filled, whole ▸ List.prefix_rfl⟩
  | start filled _ begins => exact iff_of_true (by decide) ⟨filled, begins⟩
  | inside _ not_start _ => exact iff_of_false (by decide) fun h => not_start h.2
  | nowhere absent => exact iff_of_false (by decide) fun h => absent h.1 h.2.isInfix

theorem isMatch_plainGrade_iff :
    (plainGrade needle text).isMatch = true ↔ needle ≠ [] ∧ needle <:+: text := by
  have stands := stands_plainGrade needle text
  generalize plainGrade needle text = g at stands
  cases stands with
  | whole filled whole => exact iff_of_true rfl ⟨filled, whole ▸ List.infix_rfl⟩
  | start filled _ begins => exact iff_of_true rfl ⟨filled, begins.isInfix⟩
  | inside filled _ part => exact iff_of_true rfl ⟨filled, part⟩
  | nowhere absent => exact iff_of_false Bool.false_ne_true fun h => absent h.1 h.2

theorem Stands.plainGrade_eq {g : Grade} (stands : Stands needle text g) :
    plainGrade needle text = g := by
  cases stands with
  | whole filled whole => exact plainGrade_eq_whole_iff.mpr ⟨filled, whole⟩
  | start filled other begins =>
    rw [← List.isPrefixOf_iff_prefix] at begins
    have notEmpty : ¬needle.isEmpty = true := fun empty => filled (List.isEmpty_iff.mp empty)
    rw [plainGrade, if_neg notEmpty, if_neg other, if_pos begins]
  | inside filled not_start part =>
    have other : text ≠ needle := fun same => not_start (same ▸ List.prefix_rfl)
    rw [← List.isPrefixOf_iff_prefix] at not_start
    have notEmpty : ¬needle.isEmpty = true := fun empty => filled (List.isEmpty_iff.mp empty)
    rw [← Text.contains_iff_infix] at part
    rw [plainGrade, if_neg notEmpty, if_neg other, if_neg not_start, if_pos part]
  | nowhere absent =>
    cases matched : (plainGrade needle text).isMatch with
    | true =>
      obtain ⟨filled, part⟩ := isMatch_plainGrade_iff.mp matched
      exact absurd part (absent filled)
    | false => simpa [Grade.isMatch] using matched

theorem grade_phrase_eq {w t : String} :
    (whole w).grade t =
      if Text.fold w.toList ≠ [] ∧ Text.fold t.toList = Text.fold w.toList then .whole
      else .miss := by
  rw [grade]
  refine if_congr ?_ rfl rfl
  rw [Bool.and_eq_true, Bool.not_eq_true', List.isEmpty_eq_false_iff, decide_eq_true_eq]

end Dossier.Pattern
