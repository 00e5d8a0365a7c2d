import Dossier.Proofs.Text.Fold
import Dossier.Proofs.Text.Occurrence

/-!
Words as parts of texts in lower case. A word is a part of a text with or without the blanks around
it, and of joined texts if it is a part of one of them; the lower case of a word is a word. Apart
from a capital sigma and a dotted capital I, lower case folds each character by itself, so that a
word of other letters that stands in a text up to case stands there in lower case too.
-/

namespace Dossier.Text

variable {p cs ds : List Char}

theorem isWord_of_mem_words (mem : p ∈ words cs) : IsWord p := by
  obtain ⟨filled, each⟩ := mem_of_mem_words mem
  refine ⟨filled, ?_⟩
  rw [List.all_eq_true]
  intro c inside
  rw [(each c inside).1]
  rfl

theorem IsWord.not_mem (word : IsWord p) {c : Char} (blank : isBlank c = true) : c ∉ p := by
  intro mem
  have unbroken := word.unbroken c mem
  rw [blank] at unbroken
  cases unbroken

theorem IsWord.prefix_of_append_cons (word : IsWord p) {c : Char} (blank : isBlank c = true)
    (begins : p <+: cs ++ c :: ds) : p <+: cs := by
  have upTo : cs ++ [c] <+: cs ++ c :: ds := by simp
  rcases List.prefix_or_prefix_of_prefix begins upTo with short | long
  · rcases List.prefix_concat_iff.mp short with whole | inside
    · exact absurd (by simp [whole]) (word.not_mem blank)
    · exact inside
  · exact absurd (long.subset (by simp)) (word.not_mem blank)

theorem IsWord.not_prefix_cons (word : IsWord p) {c : Char} (blank : isBlank c = true) :
    ¬p <+: c :: cs := by
  intro begins
  have empty : p <+: [] := word.prefix_of_append_cons blank begins
  exact word.1 (List.prefix_nil.mp empty)

theorem IsWord.infix_trimStart (word : IsWord p) (part : p <:+: cs) : p <:+: trimStart cs := by
  induction cs with
  | nil => exact part
  | cons c rest ih =>
    by_cases blank : isBlank c = true
    · rw [trimStart, List.dropWhile_cons_of_pos blank]
      rcases List.infix_cons_iff.mp part with begins | later
      · exact absurd begins (word.not_prefix_cons blank)
      · exact ih later
    · rw [trimStart, List.dropWhile_cons_of_neg blank]
      exact part

theorem IsWord.reverse (word : IsWord p) : IsWord p.reverse := by
  constructor
  · intro empty
    exact word.1 (List.reverse_eq_nil_iff.mp empty)
  · rw [List.all_reverse]
    exact word.2

theorem IsWord.infix_trim_iff (word : IsWord p) : p <:+: trim cs ↔ p <:+: cs := by
  constructor
  · intro part
    exact part.trans (trim_isInfix cs)
  · intro part
    have backwards : p.reverse <:+: (trimStart cs).reverse :=
      List.reverse_infix.mpr (word.infix_trimStart part)
    rw [trim, ← List.reverse_infix, List.reverse_reverse]
    exact word.reverse.infix_trimStart backwards

/-- No part without a blank reaches across one. -/
theorem IsWord.infix_append_cons_iff (word : IsWord p) {c : Char} (blank : isBlank c = true) :
    p <:+: cs ++ c :: ds ↔ p <:+: cs ∨ p <:+: ds := by
  constructor
  · intro part
    induction cs with
    | nil =>
      rcases List.infix_cons_iff.mp part with begins | later
      · exact absurd begins (word.not_prefix_cons blank)
      · exact .inr later
    | cons d rest ih =>
      rcases List.infix_cons_iff.mp part with begins | later
      · exact .inl (word.prefix_of_append_cons blank begins).isInfix
      · rcases ih later with inside | after
        · exact .inl (List.infix_cons_iff.mpr (.inr inside))
        · exact .inr after
  · rintro (before | after)
    · exact before.trans (List.prefix_append cs (c :: ds)).isInfix
    · exact after.trans ((List.suffix_cons c ds).trans (List.suffix_append cs (c :: ds))).isInfix

theorem IsWord.infix_intercalate_iff (word : IsWord p) {parts : List (List Char)} :
    p <:+: [' '].intercalate parts ↔ ∃ part ∈ parts, p <:+: part := by
  induction parts with
  | nil =>
    refine iff_of_false ?_ (by simp)
    intro part
    exact word.1 (List.infix_nil.mp part)
  | cons first rest ih =>
    by_cases last : rest = []
    · rw [last, List.intercalate_singleton]
      simp
    · have joined : [' '].intercalate (first :: rest) =
          first ++ ' ' :: [' '].intercalate rest := by
        rw [List.intercalate_cons_of_ne_nil last, List.append_assoc, List.singleton_append]
      rw [joined, word.infix_append_cons_iff (by rfl), ih]
      simp

/-- The lower case of the character is one character, and the same beside any others. -/
def IsSteady (c : Char) : Prop := c ≠ 'Σ' ∧ c ≠ 'İ'

instance (c : Char) : Decidable (IsSteady c) := inferInstanceAs (Decidable (_ ∧ _))

theorem lowerIn_of_isSteady {c : Char} (steady : IsSteady c) (before after : List Char) :
    lowerIn before c after = [foldChar c] := by
  rw [lowerIn, if_neg steady.1, if_neg steady.2]

theorem lowerIn_ne_nil (before : List Char) (c : Char) (after : List Char) :
    lowerIn before c after ≠ [] := by
  unfold lowerIn
  split
  · split <;> exact List.cons_ne_nil _ _
  · split <;> exact List.cons_ne_nil _ _

theorem isBlank_of_mem_lowerIn {before after : List Char} {c d : Char}
    (mem : d ∈ lowerIn before c after) : isBlank d = isBlank c := by
  by_cases sigma : c = 'Σ'
  · rw [lowerIn, if_pos sigma] at mem
    subst sigma
    split at mem
    · rw [List.mem_singleton.mp mem]
      rfl
    · rw [List.mem_singleton.mp mem]
      rfl
  · by_cases dotted : c = 'İ'
    · rw [lowerIn, if_neg sigma, if_pos dotted] at mem
      subst dotted
      rcases List.mem_pair.mp mem with rfl | rfl <;> rfl
    · rw [lowerIn_of_isSteady ⟨sigma, dotted⟩] at mem
      rw [List.mem_singleton.mp mem]
      exact isBlank_foldChar c

theorem exists_of_mem_lowercaseAfter {before : List Char} {d : Char}
    (mem : d ∈ lowercaseAfter before cs) : ∃ c ∈ cs, isBlank d = isBlank c := by
  induction cs generalizing before with
  | nil => cases mem
  | cons c rest ih =>
    rw [lowercaseAfter, List.mem_append] at mem
    rcases mem with here | later
    · exact ⟨c, List.mem_cons_self, isBlank_of_mem_lowerIn here⟩
    · obtain ⟨e, inRest, same⟩ := ih later
      exact ⟨e, List.mem_cons_of_mem c inRest, same⟩

theorem isWord_lowercase (word : IsWord p) : IsWord (lowercase p) := by
  constructor
  · cases p with
    | nil => exact absurd rfl word.1
    | cons c rest =>
      intro empty
      exact lowerIn_ne_nil _ _ _ (List.append_eq_nil_iff.mp empty).1
  · rw [List.all_eq_true]
    intro d mem
    obtain ⟨c, inside, same⟩ := exists_of_mem_lowercaseAfter mem
    rw [same, word.unbroken c inside]
    rfl

theorem lowercaseAfter_append {piece : List Char} (steady : ∀ c ∈ piece, IsSteady c)
    (before after : List Char) : lowercaseAfter before (piece ++ after) =
      fold piece ++ lowercaseAfter (piece.reverse ++ before) after := by
  induction piece generalizing before with
  | nil => rfl
  | cons c piece ih =>
    obtain ⟨first, later⟩ := List.forall_mem_cons.mp steady
    rw [List.cons_append, lowercaseAfter, lowerIn_of_isSteady first, ih later,
      List.reverse_cons, List.append_assoc]
    rfl

theorem lowercase_of_isSteady (steady : ∀ c ∈ cs, IsSteady c) : lowercase cs = fold cs := by
  have whole := lowercaseAfter_append steady [] []
  rw [lowercaseAfter, List.append_nil, List.append_nil] at whole
  exact whole

theorem fold_infix_lowercaseAfter {piece : List Char} (steady : ∀ c ∈ piece, IsSteady c)
    (left before after : List Char) :
    fold piece <:+: lowercaseAfter left (before ++ (piece ++ after)) := by
  induction before generalizing left with
  | nil =>
    rw [List.nil_append, lowercaseAfter_append steady]
    exact (List.prefix_append _ _).isInfix
  | cons c before ih =>
    rw [List.cons_append, lowercaseAfter]
    exact (ih (c :: left)).trans (List.suffix_append _ _).isInfix

theorem isWord_fold (word : IsWord p) : IsWord (fold p) := by
  constructor
  · exact fold_ne_nil word.1
  · rw [List.all_eq_true]
    intro d mem
    obtain ⟨c, inside, rfl⟩ := List.mem_map.mp mem
    rw [isBlank_foldChar, word.unbroken c inside]
    rfl

theorem fold_trim (cs : List Char) : fold (trim cs) = trim (fold cs) := by
  have start (ds : List Char) : fold (trimStart ds) = trimStart (fold ds) := by
    have same : isBlank ∘ foldChar = isBlank := funext isBlank_foldChar
    rw [trimStart, trimStart, fold, fold, List.dropWhile_map, same]
  have back (ds : List Char) : fold ds.reverse = (fold ds).reverse := List.map_reverse
  rw [trim, trim, back, start, back, start]

theorem IsWord.hasPart_trim_iff (word : IsWord p) :
    HasPart foldChar p (trim cs) ↔ HasPart foldChar p cs := by
  have folded : fold p <:+: trim (fold cs) ↔ fold p <:+: fold cs :=
    (isWord_fold word).infix_trim_iff
  rw [← fold_trim] at folded
  exact map_infix_map_iff.symm.trans (folded.trans map_infix_map_iff)

/-- Wherever a word stands in a text up to case, neither has one of the two letters there. -/
def IsSteadyIn (w cs : List Char) : Prop :=
  ∀ piece, piece <:+: cs → fold piece = fold w → ∀ c ∈ w ++ piece, IsSteady c

theorem isSteadyIn_of_all (steady : ((p ++ cs).all fun c => decide (IsSteady c)) = true) :
    IsSteadyIn p cs := by
  intro piece part _ c mem
  refine of_decide_eq_true (List.all_eq_true.mp steady c ?_)
  rcases List.mem_append.mp mem with inWord | inPiece
  · exact List.mem_append_left cs inWord
  · exact List.mem_append_right p (part.subset inPiece)

theorem IsWord.lowercase_infix (word : IsWord p) (steady : IsSteadyIn p cs)
    (found : HasPart foldChar p cs) : lowercase p <:+: lowercase (trim cs) := by
  obtain ⟨before, piece, after, inner, same⟩ := word.hasPart_trim_iff.mpr found
  have part : piece <:+: cs := by
    have inTrimmed : piece <:+: trim cs := ⟨before, after, by rw [inner, List.append_assoc]⟩
    exact inTrimmed.trans (trim_isInfix cs)
  obtain ⟨ofWord, ofPiece⟩ := List.forall_mem_append.mp (steady piece part same)
  have whole : lowercase p = fold piece := (lowercase_of_isSteady ofWord).trans same.symm
  rw [whole, inner]
  exact fold_infix_lowercaseAfter ofPiece [] before after

end Dossier.Text
