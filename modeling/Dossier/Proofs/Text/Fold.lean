import Dossier.Proofs.Text.Blank
import Dossier.Query.Basic
import Dossier.Text.Case

/-!
Setting case aside neither makes nor removes a blank or a wildcard, so that texts that agree up to
case are single words together.
-/

namespace Dossier.Text

def breakCodes : List Nat := 0x2A :: 0x3F :: blankCodes

theorem moved_eq_iff {shifts : List Shift} {m n : Nat}
    (apart : ∀ s ∈ shifts, (m < s.first ∨ s.last < m) ∧
      (m < s.target ∨ s.target + (s.last - s.first) < m)) :
    moved shifts n = m ↔ n = m := by
  unfold moved
  cases found : shifts.find? (·.applies n) with
  | none => exact Iff.rfl
  | some s =>
    obtain ⟨source, target⟩ := apart s (List.mem_of_find?_eq_some found)
    have applies := List.find?_some found
    simp only [Shift.applies, Bool.and_eq_true, decide_eq_true_eq] at applies
    constructor
    · intro there
      dsimp only at there
      omega
    · intro here
      omega

/-- A code point that is none makes the character of code point zero. -/
theorem ofNat_eq_iff {m : Nat} (valid : m.isValidChar) (above : m ≠ 0) (n : Nat) :
    (Char.ofNat n).toNat = m ↔ n = m := by
  unfold Char.ofNat
  by_cases h : n.isValidChar
  · rw [dif_pos h]
    exact Iff.rfl
  · rw [dif_neg h]
    exact iff_of_false (Ne.symm above) fun same => h (same ▸ valid)

theorem foldChar_eq_iff {m : Nat} (h : m ∈ breakCodes) (c : Char) :
    (foldChar c).toNat = m ↔ c.toNat = m := by
  have ascii : ∀ n < 0x80, ∀ m ∈ breakCodes, (Char.ofNat n).toLower.toNat = m ↔ n = m := by
    decide +kernel
  have apart : ∀ m ∈ breakCodes, ∀ s ∈ lowerShifts, (m < s.first ∨ s.last < m) ∧
      (m < s.target ∨ s.target + (s.last - s.first) < m) := by
    decide +kernel
  have valid : ∀ m ∈ breakCodes, m.isValidChar ∧ m ≠ 0 := by decide +kernel
  unfold foldChar
  by_cases low : c.toNat < 0x80
  · have := ascii c.toNat low m h
    rw [Char.ofNat_toNat] at this
    rw [if_pos low]
    exact this
  · rw [if_neg low, ofNat_eq_iff (valid m h).1 (valid m h).2]
    exact moved_eq_iff (apart m h)

theorem isBlank_iff (c : Char) : isBlank c = true ↔ c.toNat ∈ blankCodes := by
  constructor
  · exact mem_blankCodes
  · intro mem
    have blank := isBlank_ofNat mem
    rwa [Char.ofNat_toNat] at blank

theorem isBlank_foldChar (c : Char) : isBlank (foldChar c) = isBlank c := by
  rw [Bool.eq_iff_iff, isBlank_iff, isBlank_iff]
  have kept : ∀ m ∈ blankCodes, (foldChar c).toNat = m ↔ c.toNat = m :=
    fun m mem => foldChar_eq_iff (List.mem_cons_of_mem _ (List.mem_cons_of_mem _ mem)) c
  constructor
  · intro mem
    exact (kept _ mem).mp rfl ▸ mem
  · intro mem
    exact (kept _ mem).mpr rfl ▸ mem

theorem isWildcard_foldChar (c : Char) : Query.isWildcard (foldChar c) = Query.isWildcard c := by
  have star : foldChar c = '*' ↔ c = '*' := by
    rw [← Char.toNat_inj, ← Char.toNat_inj]
    exact foldChar_eq_iff List.mem_cons_self c
  have mark : foldChar c = '?' ↔ c = '?' := by
    rw [← Char.toNat_inj, ← Char.toNat_inj]
    exact foldChar_eq_iff (List.mem_cons_of_mem _ List.mem_cons_self) c
  simp only [Query.isWildcard, star, mark]

/-- A single word that stands for itself: some characters, and no blank or wildcard among them. -/
structure IsPlainWord (cs : List Char) : Prop where
  nonempty : cs ≠ []
  unbroken : ∀ c ∈ cs, isBlank c = false
  literal : ∀ c ∈ cs, Query.isWildcard c = false

variable {cs ds : List Char}

/-- A finite check of the characters of the word, and not of all characters. -/
instance : Decidable (IsPlainWord cs) :=
  decidable_of_iff (cs ≠ [] ∧ (cs.all fun c => !isBlank c && !Query.isWildcard c) = true) <| by
    simp only [List.all_eq_true, Bool.and_eq_true, Bool.not_eq_true']
    constructor
    · rintro ⟨filled, each⟩
      exact ⟨filled, fun c hc => (each c hc).1, fun c hc => (each c hc).2⟩
    · intro word
      exact ⟨word.nonempty, fun c hc => ⟨word.unbroken c hc, word.literal c hc⟩⟩

theorem IsPlainWord.of_fold_eq (h : IsPlainWord ds) (same : fold cs = fold ds) :
    IsPlainWord cs := by
  have partner : ∀ c ∈ cs, ∃ d ∈ ds, foldChar d = foldChar c := by
    intro c hc
    have mem : foldChar c ∈ fold ds := same ▸ List.mem_map_of_mem hc
    exact List.mem_map.mp mem
  constructor
  · rintro rfl
    exact h.nonempty (List.map_eq_nil_iff.mp same.symm)
  · intro c hc
    obtain ⟨d, hd, equal⟩ := partner c hc
    rw [← isBlank_foldChar, ← equal, isBlank_foldChar]
    exact h.unbroken d hd
  · intro c hc
    obtain ⟨d, hd, equal⟩ := partner c hc
    rw [← isWildcard_foldChar, ← equal, isWildcard_foldChar]
    exact h.literal d hd

end Dossier.Text
