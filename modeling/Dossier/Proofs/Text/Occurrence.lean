import Dossier.Text.Occurrence
import Mathlib.Data.List.Infix

/-!
Occurrences as parts of a list. A text contains a needle just if the needle is a part of it, the
search among the bytes finds the same place as the search among the characters, and the parts of a
mapped list are the mapped parts.
-/

namespace Dossier.Text

theorem isSome_occurrence?_iff {needle cs : List Char} :
    (occurrence? needle cs).isSome = true ↔ needle <:+: cs := by
  induction cs with
  | nil =>
    rw [occurrence?, List.infix_nil]
    cases needle with
    | nil => exact iff_of_true rfl rfl
    | cons c rest => exact iff_of_false Bool.false_ne_true (List.cons_ne_nil c rest)
  | cons c rest ih =>
    rw [occurrence?, List.infix_cons_iff, ← List.isPrefixOf_iff_prefix, ← ih]
    by_cases begins : needle.isPrefixOf (c :: rest) = true
    · rw [if_pos begins]
      exact iff_of_true rfl (.inl begins)
    · rw [if_neg begins, Option.isSome_map]
      exact (or_iff_right begins).symm

theorem contains_iff_infix {needle cs : List Char} : contains cs needle = true ↔ needle <:+: cs :=
  isSome_occurrence?_iff

theorem occurrence?_eq_some_iff {needle cs : List Char} {i : Nat} :
    occurrence? needle cs = some i ↔ needle <+: cs.drop i ∧ ∀ j < i, ¬needle <+: cs.drop j := by
  induction cs generalizing i with
  | nil =>
    simp only [occurrence?, Option.ite_none_right_eq_some, List.isEmpty_iff, Option.some.injEq,
      List.drop_nil, List.prefix_nil]
    constructor
    · rintro ⟨rfl, rfl⟩
      exact ⟨rfl, fun j below => absurd below (Nat.not_lt_zero j)⟩
    · rintro ⟨rfl, least⟩
      refine ⟨rfl, ?_⟩
      by_contra positive
      exact least 0 (by omega) rfl
  | cons c rest ih =>
    rw [occurrence?]
    by_cases begins : needle.isPrefixOf (c :: rest) = true
    · rw [if_pos begins]
      have here := List.isPrefixOf_iff_prefix.mp begins
      constructor
      · rintro ⟨⟩
        exact ⟨here, fun j below => absurd below (Nat.not_lt_zero j)⟩
      · rintro ⟨-, least⟩
        cases i with
        | zero => rfl
        | succ i => exact absurd here (least 0 (Nat.succ_pos i))
    · rw [if_neg begins]
      have absent : ¬needle <+: c :: rest := fun here =>
        begins (List.isPrefixOf_iff_prefix.mpr here)
      constructor
      · intro found
        obtain ⟨i, later, rfl⟩ := Option.map_eq_some_iff.mp found
        obtain ⟨stands, least⟩ := ih.mp later
        refine ⟨stands, ?_⟩
        intro j below
        cases j with
        | zero => exact absent
        | succ j => exact least j (by omega)
      · rintro ⟨stands, least⟩
        cases i with
        | zero => exact absurd stands absent
        | succ i =>
          have later : occurrence? needle rest = some i :=
            ih.mpr ⟨stands, fun j below => least (j + 1) (by omega)⟩
          rw [later]
          rfl

section Bytes

open String.Slice.Pattern.Model

variable {needle text : String}

/-- A place in the bytes at which the search stops stands between two characters, the needle follows
it, and it follows no earlier place. -/
theorem splits_of_find? (filled : needle ≠ "") {place : text.Pos}
    (found : text.find? needle = some place) :
    (∃ before after, place.Splits before (needle ++ after)) ∧
      ∀ earlier < place, ∀ before after, ¬earlier.Splits before (needle ++ after) := by
  have strict := ForwardStringSearcher.strictPatternModel filled
  have lawful := ForwardStringSearcher.lawfulToForwardSearcherModel filled
  obtain ⟨inner, sliced, rfl⟩ := Option.map_eq_some_iff.mp found
  obtain ⟨stands, least⟩ := (find?_eq_some_iff needle).mp sliced
  rw [ForwardStringSearcher.matchesAt_iff_splits] at stands
  constructor
  · obtain ⟨before, after, splits⟩ := stands
    exact ⟨before, after, String.Slice.Pos.splits_ofToSlice_iff.mpr splits⟩
  · intro earlier below before after splits
    have inside : earlier.toSlice < inner := by
      rw [← String.Pos.ofToSlice_lt, String.Pos.ofToSlice_toSlice]
      exact below
    apply least earlier.toSlice inside
    rw [ForwardStringSearcher.matchesAt_iff_splits]
    exact ⟨before, after, splits.toSlice⟩

theorem find?_eq_none_iff_infix :
    text.find? needle = none ↔ ¬needle.toList <:+: text.toList := by
  rw [String.find?_eq_find?_toSlice, Option.map_eq_none_iff, String.Slice.find?_eq_none_iff,
    String.Slice.contains_string_eq_false_iff, String.copy_toSlice]

theorem byteOccurrence?_eq (filled : needle ≠ "") :
    byteOccurrence? needle text = occurrence? needle.toList text.toList := by
  unfold byteOccurrence?
  cases found : text.find? needle with
  | none =>
    have absent : ¬(occurrence? needle.toList text.toList).isSome = true := by
      rw [isSome_occurrence?_iff]
      exact find?_eq_none_iff_infix.mp found
    rw [Option.not_isSome_iff_eq_none.mp absent]
    rfl
  | some place =>
    obtain ⟨⟨before, after, splits⟩, least⟩ := splits_of_find? filled found
    have whole : text.toList = before.toList ++ (needle.toList ++ after.toList) := by
      rw [← String.toList_append, ← String.toList_append, ← splits.eq_append]
    rw [Option.map_some, splits.copy_sliceTo_eq, ← String.length_toList]
    refine (occurrence?_eq_some_iff.mpr ⟨?_, ?_⟩).symm
    · rw [whole, List.drop_left]
      exact List.prefix_append _ _
    · -- An occurrence further left would be one at an earlier place in the bytes.
      rintro j below ⟨rest, stands⟩
      have left : text.toList.take j = before.toList.take j := by
        rw [whole, List.take_append_of_le_length (by omega)]
      have parts : text = String.ofList (before.toList.take j) ++ (needle ++ String.ofList rest) := by
        rw [← String.toList_inj, String.toList_append, String.toList_append, String.toList_ofList,
          String.toList_ofList, stands, ← left, List.take_append_drop]
      have earlier := String.Pos.splits_ofEqAppend parts
      refine least _ ?_ _ _ earlier
      rw [earlier.lt_iff_exists_eq_append splits]
      refine ⟨String.ofList (before.toList.drop j), ?_, ?_, ?_⟩
      · rw [ne_eq, String.ofList_eq_empty_iff, List.drop_eq_nil_iff]
        omega
      · rw [← String.toList_inj, String.toList_append, String.toList_ofList, String.toList_ofList,
          List.take_append_drop]
      · rw [← String.toList_inj, String.toList_append, String.toList_append, String.toList_append,
          String.toList_ofList, String.toList_ofList, stands, whole,
          List.drop_append_of_le_length (by omega)]

end Bytes

section Mapped

variable {α β : Type} {f : α → β} {w v : List α}

def HasPart (f : α → β) (w v : List α) : Prop :=
  ∃ before piece after, v = before ++ (piece ++ after) ∧ piece.map f = w.map f

def HasStart (f : α → β) (w v : List α) : Prop :=
  ∃ piece after, v = piece ++ after ∧ piece.map f = w.map f

theorem map_prefix_map_iff : w.map f <+: v.map f ↔ HasStart f w v := by
  constructor
  · rintro ⟨after, whole⟩
    obtain ⟨piece, rest, rfl, same, -⟩ := List.map_eq_append_iff.mp whole.symm
    exact ⟨piece, rest, rfl, same⟩
  · rintro ⟨piece, rest, rfl, same⟩
    rw [List.map_append, same]
    exact List.prefix_append _ _

theorem map_infix_map_iff : w.map f <:+: v.map f ↔ HasPart f w v := by
  constructor
  · rintro ⟨before, after, whole⟩
    rw [List.append_assoc] at whole
    obtain ⟨first, later, rfl, -, there⟩ := List.map_eq_append_iff.mp whole.symm
    obtain ⟨piece, rest, rfl, same⟩ := map_prefix_map_iff.mp ⟨after, there.symm⟩
    exact ⟨first, piece, rest, rfl, same⟩
  · rintro ⟨before, piece, after, rfl, same⟩
    rw [List.map_append, List.map_append, same]
    exact ⟨before.map f, after.map f, List.append_assoc _ _ _⟩

end Mapped

end Dossier.Text
