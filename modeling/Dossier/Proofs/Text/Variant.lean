import Dossier.Proofs.Text.Fold

/-!
Letters that the two ways to set case aside treat differently. Folding takes the first character of
the lower case; wildcards go by simple case folding. The two agree on which characters are the same
letter, except for capitals that simple folding leaves alone, and for small letters in a variant
form that is its own lower case.
-/

namespace Dossier.Text

/-- Capitals with a lower case that simple folding does not know: the dotted capital I, and letters
that are newer than its data. -/
def unfoldedCapitals : Ranges :=
  [(0x130, 0x130), (0xA7CE, 0xA7CE), (0xA7D2, 0xA7D2), (0xA7D4, 0xA7D4), (0x16EA0, 0x16EB8)]

/-- Small letters in a variant form, such as the sigma at the end of a word. They are lower case as
they are, and simple folding takes them to the usual form. -/
def variantForms : Ranges :=
  [(0xB5, 0xB5), (0x17F, 0x17F), (0x345, 0x345), (0x3C2, 0x3C2), (0x3D0, 0x3D1), (0x3D5, 0x3D6),
    (0x3F0, 0x3F1), (0x3F5, 0x3F5), (0x1C80, 0x1C88), (0x1E9B, 0x1E9B), (0x1FBE, 0x1FBE),
    (0x1FD3, 0x1FD3), (0x1FE3, 0x1FE3), (0xFB05, 0xFB05)]

def isUnfoldedCapital (c : Char) : Bool := unfoldedCapitals.covers c.toNat

def isVariantForm (c : Char) : Bool := variantForms.covers c.toNat

/-- Two characters that are one letter in one of the two ways only. -/
def Clash (c d : Char) : Prop :=
  c ≠ d ∧
    (foldChar c = foldChar d ∧ (isUnfoldedCapital c = true ∨ isUnfoldedCapital d = true) ∨
      caseClass c = caseClass d ∧ (isVariantForm c = true ∨ isVariantForm d = true))

instance (c d : Char) : Decidable (Clash c d) := inferInstanceAs (Decidable (_ ∧ _))

namespace Shift

def sources (s : Shift) : List Nat := List.range' s.first ((s.last - s.first) / s.step + 1) s.step

theorem mem_sources {s : Shift} {n : Nat} (h : s.applies n = true) : n ∈ s.sources := by
  simp only [applies, Bool.and_eq_true, decide_eq_true_eq, beq_iff_eq] at h
  obtain ⟨⟨above, below⟩, whole⟩ := h
  have steps : s.step * ((n - s.first) / s.step) = n - s.first :=
    Nat.mul_div_cancel' (Nat.dvd_of_mod_eq_zero whole)
  have inside : (n - s.first) / s.step ≤ (s.last - s.first) / s.step :=
    Nat.div_le_div_right (Nat.sub_le_sub_right below _)
  refine List.mem_range'.mpr ⟨(n - s.first) / s.step, Nat.lt_succ_of_le inside, ?_⟩
  rw [steps]
  omega

end Shift

variable {shifts others : List Shift} {n : Nat}

theorem moved_cons (s : Shift) (rest : List Shift) (n : Nat) :
    moved (s :: rest) n = if s.applies n then n - s.first + s.target else moved rest n := by
  unfold moved
  rw [List.find?_cons]
  cases s.applies n <;> rfl

theorem moved_cases (shifts : List Shift) (n : Nat) :
    moved shifts n = n ∨
      ∃ s ∈ shifts, s.applies n = true ∧ moved shifts n = n - s.first + s.target := by
  induction shifts with
  | nil => exact .inl rfl
  | cons s rest ih =>
    rw [moved_cons]
    by_cases applies : s.applies n = true
    · rw [if_pos applies]
      exact .inr ⟨s, List.mem_cons_self, applies, rfl⟩
    · rw [if_neg applies]
      rcases ih with same | ⟨r, mem, here, there⟩
      · exact .inl same
      · exact .inr ⟨r, List.mem_cons_of_mem s mem, here, there⟩

/-- Those of the shifts that may move something between two code points. A check of whole tables
goes through this for each row, and the kernel unfolds the recursor faster than a filter. -/
noncomputable def between (lo hi : Nat) (shifts : List Shift) : List Shift :=
  List.rec [] (fun s _ later =>
    bif Nat.ble s.first hi then bif Nat.ble lo s.last then s :: later else later else later) shifts

theorem between_cons (lo hi : Nat) (s : Shift) (rest : List Shift) :
    between lo hi (s :: rest) =
      if s.first ≤ hi ∧ lo ≤ s.last then s :: between lo hi rest else between lo hi rest := by
  change (bif Nat.ble s.first hi then bif Nat.ble lo s.last then s :: between lo hi rest
    else between lo hi rest else between lo hi rest) = _
  simp only [← Nat.ble_eq]
  cases Nat.ble s.first hi <;> cases Nat.ble lo s.last <;> rfl

theorem moved_between {lo hi : Nat} (above : lo ≤ n) (below : n ≤ hi) (shifts : List Shift) :
    moved (between lo hi shifts) n = moved shifts n := by
  induction shifts with
  | nil => rfl
  | cons s rest ih =>
    rw [between_cons]
    split
    · rw [moved_cons, moved_cons, ih]
    · rename_i far
      have idle : ¬s.applies n = true := by
        simp only [Shift.applies, Bool.and_eq_true, decide_eq_true_eq]
        omega
      rw [ih, moved_cons, if_neg idle]

/-- Whatever `shifts` moves is no other for `others` than what it is moved to, exceptions apart. -/
noncomputable def absorbs (others shifts : List Shift) (exceptions : Ranges) : Bool :=
  shifts.all fun s => s.sources.all fun n =>
    Nat.beq
      (moved (between s.target (s.target + (s.last - s.first)) others) (n - s.first + s.target))
      (moved (between s.first s.last others) n) || exceptions.covers n

theorem moved_moved {exceptions : Ranges} (h : absorbs others shifts exceptions = true)
    (usual : exceptions.covers n = false) : moved others (moved shifts n) = moved others n := by
  rcases moved_cases shifts n with same | ⟨s, mem, applies, there⟩
  · rw [same]
  · have checked := List.all_eq_true.mp (List.all_eq_true.mp h s mem) n (Shift.mem_sources applies)
    rw [usual, Bool.or_false, Nat.beq_eq] at checked
    simp only [Shift.applies, Bool.and_eq_true, decide_eq_true_eq] at applies
    rw [moved_between (by omega) (by omega), moved_between applies.1.1 applies.1.2] at checked
    rw [there, checked]

theorem absorbs_fold : absorbs foldShifts lowerShifts unfoldedCapitals = true := by
  decide +kernel

theorem absorbs_lower : absorbs lowerShifts foldShifts variantForms = true := by
  decide +kernel

theorem exists_of_covers {ranges : Ranges} (h : ranges.covers n = true) :
    ∃ r ∈ ranges, r.1 ≤ n ∧ n ≤ r.2 := by
  induction ranges with
  | nil => cases h
  | cons r rest ih =>
    simp only [Ranges.covers, Bool.and_eq_true, Bool.or_eq_true, decide_eq_true_eq] at h
    obtain ⟨above, below | later⟩ := h
    · exact ⟨r, List.mem_cons_self, above, below⟩
    · obtain ⟨q, mem, inside⟩ := ih later
      exact ⟨q, List.mem_cons_of_mem r mem, inside⟩

def isStill (shifts : List Shift) (ranges : Ranges) : Bool :=
  ranges.all fun r => shifts.all fun s => (r.2 < s.first || s.last < r.1) &&
    (r.2 < s.target || s.target + (s.last - s.first) < r.1)

theorem moved_eq_iff_of_isStill {ranges : Ranges} (still : isStill shifts ranges = true) {m : Nat}
    (covered : ranges.covers m = true) (n : Nat) : moved shifts n = m ↔ n = m := by
  obtain ⟨r, mem, above, below⟩ := exists_of_covers covered
  refine moved_eq_iff fun s row => ?_
  have apart := List.all_eq_true.mp (List.all_eq_true.mp still r mem) s row
  simp only [Bool.and_eq_true, Bool.or_eq_true, decide_eq_true_eq] at apart
  omega

theorem isStill_fold : isStill foldShifts unfoldedCapitals = true := by
  decide +kernel

theorem isStill_lower : isStill lowerShifts variantForms = true := by
  decide +kernel

theorem isValidChar_moved_lower (valid : n.isValidChar) : (moved lowerShifts n).isValidChar := by
  have inside : ∀ s ∈ lowerShifts, s.target + (s.last - s.first) < 0xD800 ∨
      0xDFFF < s.target ∧ s.target + (s.last - s.first) < 0x110000 := by
    decide +kernel
  rcases moved_cases lowerShifts n with same | ⟨s, mem, applies, there⟩
  · rw [same]
    exact valid
  · simp only [Shift.applies, Bool.and_eq_true, decide_eq_true_eq] at applies
    have row := inside s mem
    rw [there]
    unfold Nat.isValidChar
    omega

theorem moved_of_ascii (c : Char) (low : c.toNat < 0x80) :
    c.toLower.toNat = moved lowerShifts c.toNat ∧ c.toLower.toNat = moved foldShifts c.toNat := by
  have ascii : ∀ n < 0x80, (Char.ofNat n).toLower.toNat = moved (between 0 0x7F lowerShifts) n ∧
      (Char.ofNat n).toLower.toNat = moved (between 0 0x7F foldShifts) n := by
    decide +kernel
  have here := ascii c.toNat low
  have below : c.toNat ≤ 0x7F := Nat.le_of_lt_succ low
  rw [Char.ofNat_toNat, moved_between (Nat.zero_le _) below,
    moved_between (Nat.zero_le _) below] at here
  exact here

theorem toNat_foldChar (c : Char) : (foldChar c).toNat = moved lowerShifts c.toNat := by
  unfold foldChar
  by_cases low : c.toNat < 0x80
  · rw [if_pos low]
    exact (moved_of_ascii c low).1
  · have valid : c.toNat.isValidChar := c.valid
    rw [if_neg low, Char.ofNat, dif_pos (isValidChar_moved_lower valid)]
    rfl

theorem caseClass_eq_moved (c : Char) : caseClass c = moved foldShifts c.toNat := by
  unfold caseClass
  by_cases low : c.toNat < 0x80
  · rw [if_pos low]
    exact (moved_of_ascii c low).2
  · rw [if_neg low]

variable {c d : Char}

theorem foldChar_eq_iff_moved :
    foldChar c = foldChar d ↔ moved lowerShifts c.toNat = moved lowerShifts d.toNat := by
  rw [← Char.toNat_inj, toNat_foldChar, toNat_foldChar]

theorem variant_of_caseClass_eq (same : caseClass c = caseClass d)
    (apart : foldChar c ≠ foldChar d) : isVariantForm c = true ∨ isVariantForm d = true := by
  rw [← Bool.or_eq_true, ← Bool.not_eq_false, Bool.or_eq_false_iff]
  rintro ⟨first, second⟩
  rw [caseClass_eq_moved, caseClass_eq_moved] at same
  have lowered := congrArg (moved lowerShifts) same
  rw [moved_moved absorbs_lower first, moved_moved absorbs_lower second] at lowered
  exact apart (foldChar_eq_iff_moved.mpr lowered)

theorem capital_of_foldChar_eq (same : foldChar c = foldChar d)
    (apart : caseClass c ≠ caseClass d) :
    isUnfoldedCapital c = true ∨ isUnfoldedCapital d = true := by
  rw [← Bool.or_eq_true, ← Bool.not_eq_false, Bool.or_eq_false_iff]
  rintro ⟨first, second⟩
  have folded := congrArg (moved foldShifts) (foldChar_eq_iff_moved.mp same)
  rw [moved_moved absorbs_fold first, moved_moved absorbs_fold second] at folded
  rw [caseClass_eq_moved, caseClass_eq_moved] at apart
  exact apart folded

theorem eq_of_isVariantForm (variant : isVariantForm d = true) (same : foldChar c = foldChar d) :
    c = d := by
  have still := moved_eq_iff_of_isStill isStill_lower variant
  rw [foldChar_eq_iff_moved, (still d.toNat).mpr rfl, still] at same
  exact Char.toNat_inj.mp same

theorem eq_of_isUnfoldedCapital (capital : isUnfoldedCapital d = true)
    (same : caseClass c = caseClass d) : c = d := by
  have still := moved_eq_iff_of_isStill isStill_fold capital
  rw [caseClass_eq_moved, caseClass_eq_moved, (still d.toNat).mpr rfl, still] at same
  exact Char.toNat_inj.mp same

/-- The letters in the two lists are all that the two ways disagree on. -/
theorem clash_iff : Clash c d ↔ ¬(foldChar c = foldChar d ↔ caseClass c = caseClass d) := by
  constructor
  · rintro ⟨other, ⟨same, capital⟩ | ⟨same, variant⟩⟩ agree
    · rcases capital with capital | capital
      · exact other (eq_of_isUnfoldedCapital capital (agree.mp same).symm).symm
      · exact other (eq_of_isUnfoldedCapital capital (agree.mp same))
    · rcases variant with variant | variant
      · exact other (eq_of_isVariantForm variant (agree.mpr same).symm).symm
      · exact other (eq_of_isVariantForm variant (agree.mpr same))
  · intro differ
    refine ⟨?_, ?_⟩
    · rintro rfl
      exact differ (iff_of_true rfl rfl)
    · by_cases folded : foldChar c = foldChar d
      · have apart : caseClass c ≠ caseClass d := fun same => differ (iff_of_true folded same)
        exact .inl ⟨folded, capital_of_foldChar_eq folded apart⟩
      · by_cases same : caseClass c = caseClass d
        · exact .inr ⟨same, variant_of_caseClass_eq same folded⟩
        · exact absurd (iff_of_false folded same) differ

end Dossier.Text
