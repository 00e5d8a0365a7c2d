import Dossier.Proofs.Text.Blank
import Dossier.Search.Request

/-!
Normal forms of texts whose characters neither compose nor move. A blank decomposes into blanks, so
that a blank text stays blank; a text of ASCII characters stays as it is.
-/

namespace Dossier.Text

variable {ns : List Nat}

/-- What composes: the parts of a Hangul syllable, or a pair of the table. -/
theorem composite_cases {a b c : Nat} (made : composite a b = some c) :
    (0x1100 ≤ a ∧ 0x1161 ≤ b ∧ b ≤ 0x11C2 ∧ 0xAC00 ≤ c) ∨ (c, a, b) ∈ primaryPairs := by
  unfold composite at made
  split at made
  · cases made
  split at made
  · rename_i leading
    simp only [Bool.and_eq_true, decide_eq_true_eq] at leading
    have := Option.some.inj made
    left
    omega
  split at made
  · rename_i syllable
    simp only [Bool.and_eq_true, decide_eq_true_eq] at syllable
    have := Option.some.inj made
    left
    omega
  · obtain ⟨p, found, rfl⟩ := Option.map_eq_some_iff.mp made
    have same := List.find?_some found
    simp only [Bool.and_eq_true, beq_iff_eq] at same
    obtain ⟨rfl, rfl⟩ := same
    exact .inr (List.mem_of_find?_eq_some found)

/-- It stays where it is, and composes with nothing before it. -/
structure IsInert (n : Nat) : Prop where
  starts : combiningClass n = 0
  alone : ∀ a, composite a n = none

theorem isInert_of_lt {n : Nat} (h : n < 0x300) : IsInert n where
  starts := if_pos h
  alone _ := if_pos h

theorem insertMark_of_starts {s : Nat} (starts : combiningClass s = 0) (ns : List Nat) :
    insertMark s ns = s :: ns := by
  cases ns with
  | nil => rfl
  | cons m rest =>
    rw [insertMark, if_neg]
    simp [starts]

theorem reorder_of_isInert (h : ∀ n ∈ ns, IsInert n) : reorder ns = ns := by
  induction ns with
  | nil => rfl
  | cons n rest ih =>
    obtain ⟨first, later⟩ := List.forall_mem_cons.mp h
    have tail : reorder rest = rest := ih later
    change insertMark n (reorder rest) = n :: rest
    rw [tail, insertMark_of_starts first.starts]

theorem composeFrom_of_isInert (starter : Nat) (h : ∀ n ∈ ns, IsInert n) :
    composeFrom starter [] ns = starter :: ns := by
  induction ns generalizing starter with
  | nil => rfl
  | cons n rest ih =>
    obtain ⟨first, later⟩ := List.forall_mem_cons.mp h
    simp [composeFrom, first.alone starter, first.starts, ih n later]

theorem compose_of_isInert (h : ∀ n ∈ ns, IsInert n) : compose ns = ns := by
  cases ns with
  | nil => rfl
  | cons n rest =>
    obtain ⟨first, later⟩ := List.forall_mem_cons.mp h
    rw [compose, if_pos first.starts, composeFrom_of_isInert n later]

theorem nfkc_of_lt {cs : List Char} (h : ∀ c ∈ cs, c.toNat < 0xA0) : nfkc cs = cs := by
  have whole : (cs.flatMap fun c => decompose .compatible 4 c.toNat) = cs.map Char.toNat := by
    rw [List.map_eq_flatMap, List.flatMap_def, List.flatMap_def]
    refine congrArg List.flatten (List.map_congr_left fun c hc => ?_)
    rw [decompose, parts, if_pos (h c hc)]
  have inert : ∀ n ∈ cs.map Char.toNat, IsInert n := by
    intro n hn
    obtain ⟨c, hc, rfl⟩ := List.mem_map.mp hn
    exact isInert_of_lt (Nat.lt_trans (h c hc) (by decide))
  have back : ∀ c ∈ cs, (Char.ofNat ∘ Char.toNat) c = id c := fun c _ => Char.ofNat_toNat c
  rw [nfkc, normalize, whole, reorder_of_isInert inert, compose_of_isInert inert, List.map_map,
    List.map_congr_left back, List.map_id]

end Dossier.Text

namespace Dossier

end Dossier
