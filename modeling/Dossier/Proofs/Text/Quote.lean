import Dossier.Proofs.Text.Fold
import Dossier.Proofs.Text.Normal
import Mathlib.Data.List.Count
import Mathlib.Data.List.Perm.Basic

/-!
Quotation marks in normal form KC. The quotation mark and its wide form become quotation marks, and
nothing else does. A quotation mark neither moves nor composes, so that it parts a text: what stands
before it and what stands after it are brought into normal form apart.
-/

namespace Dossier.Text

section Decomposition

variable {n m : Nat} {ns : List Nat}

theorem parts_cases (step : parts .compatible n = some ns) :
    (n ≤ 0xD7A3 ∧ ns = hangulParts n) ∨ (∃ p ∈ primaryPairs, ns = [p.2.1, p.2.2]) ∨
      Span.find? oneWaySpans n = some ns ∨ Span.find? compatibleSpans n = some ns := by
  unfold parts at step
  split at step
  · cases step
  split at step
  · rename_i hangul
    simp only [Bool.and_eq_true, decide_eq_true_eq] at hangul
    exact .inl ⟨hangul.2, (Option.some.inj step).symm⟩
  split at step
  · rename_i found
    exact .inr (.inl ⟨_, List.mem_of_find?_eq_some found, (Option.some.inj step).symm⟩)
  split at step
  · rename_i found
    exact .inr (.inr (.inl (found.trans step)))
  · exact .inr (.inr (.inr step))

theorem bounds_of_mem_hangulParts (hangul : n ≤ 0xD7A3) (mem : m ∈ hangulParts n) :
    0x1100 ≤ m ∧ m < 0xFF02 := by
  unfold hangulParts at mem
  dsimp only at mem
  split at mem
  · simp only [List.mem_cons, List.not_mem_nil, or_false] at mem
    omega
  · simp only [List.mem_append, List.mem_cons, List.not_mem_nil, or_false] at mem
    omega

theorem Span.exists_of_find? {α : Type} {spans : List (Span α)} {a : α}
    (found : Span.find? spans n = some a) :
    ∃ s ∈ spans, s.first ≤ n ∧ (a, n - s.first) ∈ s.rows.zipIdx := by
  induction spans with
  | nil => cases found
  | cons s rest ih =>
    rw [Span.find?] at found
    split at found
    · cases found
    · rename_i reached
      split at found
      · exact ⟨s, List.mem_cons_self, Nat.le_of_not_lt reached,
          List.mem_zipIdx_iff_getElem?.mpr found⟩
      · obtain ⟨t, mem, row⟩ := ih found
        exact ⟨t, List.mem_cons_of_mem s mem, row⟩

def quoteCodes : List Nat := [0x22, 0xFF02]

def avoidsQuotes (spans : List (Span (List Nat))) : Bool :=
  spans.all fun s => s.rows.zipIdx.all fun row =>
    s.first + row.2 == 0xFF02 || row.1.all fun m => !quoteCodes.contains m

theorem not_mem_quoteCodes_of_span {spans : List (Span (List Nat))}
    (avoids : avoidsQuotes spans = true) (other : n ∉ quoteCodes)
    (found : Span.find? spans n = some ns) (mem : m ∈ ns) : m ∉ quoteCodes := by
  obtain ⟨s, known, reached, row⟩ := Span.exists_of_find? found
  have here := List.all_eq_true.mp (List.all_eq_true.mp avoids s known) _ row
  have place : s.first + (n - s.first) = n := Nat.add_sub_of_le reached
  have notWide : n ≠ 0xFF02 := by
    rintro rfl
    exact other (by decide)
  simp only [place, Bool.or_eq_true, beq_iff_eq, notWide, false_or] at here
  simpa using List.all_eq_true.mp here m mem

theorem not_mem_quoteCodes_of_parts (step : parts .compatible n = some ns) (other : n ∉ quoteCodes)
    (mem : m ∈ ns) : m ∉ quoteCodes := by
  have pairs : ∀ p ∈ primaryPairs, p.2.1 ∉ quoteCodes ∧ p.2.2 ∉ quoteCodes := by decide +kernel
  have oneWay : avoidsQuotes oneWaySpans = true := by decide +kernel
  have compatible : avoidsQuotes compatibleSpans = true := by decide +kernel
  rcases parts_cases step with ⟨hangul, eq⟩ | ⟨p, known, rfl⟩ | found | found
  · rw [eq] at mem
    have := bounds_of_mem_hangulParts hangul mem
    simp only [quoteCodes, List.mem_cons, List.not_mem_nil, or_false]
    omega
  · rcases List.mem_pair.mp mem with rfl | rfl
    · exact (pairs p known).1
    · exact (pairs p known).2
  · exact not_mem_quoteCodes_of_span oneWay other found mem
  · exact not_mem_quoteCodes_of_span compatible other found mem

theorem not_mem_quoteCodes_of_decompose {depth : Nat} (other : n ∉ quoteCodes)
    (mem : m ∈ decompose .compatible depth n) : m ∉ quoteCodes := by
  induction depth generalizing n with
  | zero =>
    rw [List.mem_singleton.mp mem]
    exact other
  | succ depth ih =>
    rw [decompose] at mem
    split at mem
    · rename_i ns step
      obtain ⟨k, inside, mem⟩ := List.mem_flatMap.mp mem
      exact ih (not_mem_quoteCodes_of_parts step other inside) mem
    · rw [List.mem_singleton.mp mem]
      exact other

theorem decompose_of_mem_quoteCodes (quote : n ∈ quoteCodes) :
    decompose .compatible 4 n = [0x22] := by
  have both : ∀ n ∈ quoteCodes, decompose .compatible 4 n = [0x22] := by decide +kernel
  exact both n quote

theorem count_decompose (n : Nat) :
    (decompose .compatible 4 n).count 0x22 = if n ∈ quoteCodes then 1 else 0 := by
  by_cases quote : n ∈ quoteCodes
  · rw [if_pos quote, decompose_of_mem_quoteCodes quote]
    rfl
  · rw [if_neg quote, List.count_eq_zero]
    intro mem
    exact not_mem_quoteCodes_of_decompose quote mem (by decide)

end Decomposition

section Order

variable {s : Nat}

theorem insertMark_perm (n : Nat) (ns : List Nat) : (insertMark n ns).Perm (n :: ns) := by
  induction ns with
  | nil => exact .refl _
  | cons m rest ih =>
    rw [insertMark]
    split
    · exact (ih.cons m).trans (.swap n m rest)
    · exact .refl _

theorem reorder_perm (ns : List Nat) : (reorder ns).Perm ns := by
  induction ns with
  | nil => exact .refl _
  | cons n rest ih => exact (insertMark_perm n (reorder rest)).trans (ih.cons n)

theorem insertMark_cons_of_starts (starts : combiningClass s = 0) (n : Nat) (rest : List Nat) :
    insertMark n (s :: rest) = n :: s :: rest := by
  rw [insertMark, if_neg]
  simp [starts]

/-- No mark moves past a starter. -/
theorem insertMark_append (starts : combiningClass s = 0) (n : Nat) (before after : List Nat) :
    insertMark n (before ++ s :: after) = insertMark n before ++ s :: after := by
  induction before with
  | nil => exact insertMark_cons_of_starts starts n after
  | cons m rest ih =>
    rw [List.cons_append, insertMark, insertMark, ih]
    split
    · rfl
    · rfl

theorem reorder_append (starts : combiningClass s = 0) (before after : List Nat) :
    reorder (before ++ s :: after) = reorder before ++ s :: reorder after := by
  induction before with
  | nil => exact insertMark_of_starts starts (reorder after)
  | cons n rest ih =>
    have moved : reorder (n :: rest ++ s :: after) = insertMark n (reorder (rest ++ s :: after)) :=
      rfl
    rw [moved, ih, insertMark_append starts]
    rfl

end Order

section Composition

/-- It starts anew, and takes no part in composition: it is neither one of two that compose nor what
they make. -/
structure IsSolitary (n : Nat) : Prop where
  starts : combiningClass n = 0
  apart : ∀ {a b c}, composite a b = some c → a ≠ n ∧ b ≠ n ∧ c ≠ n

theorem isSolitary_quote : IsSolitary 0x22 where
  starts := by decide
  apart made := by
    have pairs : ∀ p ∈ primaryPairs, p.2.1 ≠ 0x22 ∧ p.2.2 ≠ 0x22 ∧ p.1 ≠ 0x22 := by
      decide +kernel
    rcases composite_cases made with high | listed
    · omega
    · exact pairs _ listed

namespace IsSolitary

variable {q : Nat} (solitary : IsSolitary q)

include solitary

theorem composite_left (b : Nat) : composite q b = none :=
  Option.eq_none_iff_forall_ne_some.mpr fun _ made => (solitary.apart made).1 rfl

theorem composite_right (a : Nat) : composite a q = none :=
  Option.eq_none_iff_forall_ne_some.mpr fun _ made => (solitary.apart made).2.1 rfl

/-- What waits for marks to compose with may as well have ended. -/
theorem composeFrom_eq (marks ns : List Nat) :
    composeFrom q marks ns = q :: marks.reverse ++ compose ns := by
  induction ns generalizing marks with
  | nil => simp [composeFrom, compose]
  | cons n rest ih =>
    by_cases starts : combiningClass n = 0
    · simp [composeFrom, compose, solitary.composite_left, starts]
    · simp [composeFrom, compose, solitary.composite_left, starts, ih]

theorem composeFrom_append (starter : Nat) (marks before after : List Nat) :
    composeFrom starter marks (before ++ q :: after) =
      composeFrom starter marks before ++ q :: compose after := by
  induction before generalizing starter marks with
  | nil => simp [composeFrom, solitary.composite_right, solitary.starts, solitary.composeFrom_eq]
  | cons n rest ih =>
    simp only [List.cons_append, composeFrom]
    split
    · exact ih _ _
    · split
      · simp [ih]
      · exact ih _ _

theorem compose_append (before after : List Nat) :
    compose (before ++ q :: after) = compose before ++ q :: compose after := by
  induction before with
  | nil => simp [compose, solitary.starts, solitary.composeFrom_eq]
  | cons n rest ih =>
    simp only [List.cons_append, compose]
    split
    · exact solitary.composeFrom_append n [] rest after
    · rw [ih]
      rfl

theorem count_composeFrom (starter : Nat) (marks ns : List Nat) :
    (composeFrom starter marks ns).count q =
      [starter].count q + marks.count q + ns.count q := by
  induction ns generalizing starter marks with
  | nil =>
    simp only [composeFrom, List.count_cons, List.count_reverse, List.count_nil]
    omega
  | cons n rest ih =>
    simp only [composeFrom]
    split
    · rename_i c made
      have joined : composite starter n = some c := (Option.ite_none_left_eq_some.mp made).2
      obtain ⟨first, second, whole⟩ := solitary.apart joined
      simp [ih, first, second, whole]
    · split
      · simp only [List.cons_append, List.count_cons, List.count_append, List.count_reverse, ih,
          List.count_nil]
        omega
      · simp only [ih, List.count_cons]
        omega

theorem count_compose (ns : List Nat) : (compose ns).count q = ns.count q := by
  induction ns with
  | nil => rfl
  | cons n rest ih =>
    rw [compose]
    split
    · simp only [solitary.count_composeFrom, List.count_cons, List.count_nil]
      omega
    · rw [List.count_cons, List.count_cons, ih]

end IsSolitary

end Composition

section Quote

variable {c : Char} {cs : List Char}

def IsQuote (c : Char) : Prop := nfkc [c] = ['"']

instance (c : Char) : Decidable (IsQuote c) := inferInstanceAs (Decidable (_ = _))

theorem ofNat_eq_quote_iff {n : Nat} : Char.ofNat n = '"' ↔ n = 0x22 := by
  rw [← Char.toNat_inj]
  exact ofNat_eq_iff (by decide) (by decide) n

theorem count_map_ofNat (ns : List Nat) : (ns.map Char.ofNat).count '"' = ns.count 0x22 := by
  rw [List.count_eq_countP, List.count_eq_countP, List.countP_map]
  refine List.countP_congr fun n _ => ?_
  simp [ofNat_eq_quote_iff]

theorem count_flatMap_decompose (cs : List Char) :
    (cs.flatMap fun c => decompose .compatible 4 c.toNat).count 0x22 =
      cs.countP fun c => c.toNat ∈ quoteCodes := by
  induction cs with
  | nil => rfl
  | cons c rest ih =>
    rw [List.flatMap_cons, List.count_append, count_decompose, ih, List.countP_cons]
    simp only [decide_eq_true_eq]
    omega

theorem count_nfkc_codes (cs : List Char) :
    (nfkc cs).count '"' = cs.countP fun c => c.toNat ∈ quoteCodes := by
  rw [nfkc, normalize, count_map_ofNat, isSolitary_quote.count_compose, (reorder_perm _).count_eq,
    count_flatMap_decompose]

theorem isQuote_iff : IsQuote c ↔ c.toNat ∈ quoteCodes := by
  constructor
  · intro quote
    have count := count_nfkc_codes [c]
    rw [quote, List.countP_singleton] at count
    by_contra other
    simp [other] at count
  · intro quote
    have all : ∀ n ∈ quoteCodes, IsQuote (Char.ofNat n) := by decide +kernel
    have := all _ quote
    rwa [Char.ofNat_toNat] at this

/-- A quotation mark for each of the text, and no other. -/
theorem count_nfkc (cs : List Char) : (nfkc cs).count '"' = cs.countP fun c => IsQuote c := by
  rw [count_nfkc_codes]
  exact List.countP_congr fun c _ => by simp [isQuote_iff]

theorem not_mem_nfkc (free : ∀ c ∈ cs, ¬IsQuote c) : '"' ∉ nfkc cs := by
  rw [← List.count_eq_zero, count_nfkc, List.countP_eq_zero]
  simpa using free

theorem nfkc_append (quote : IsQuote c) (before after : List Char) :
    nfkc (before ++ c :: after) = nfkc before ++ '"' :: nfkc after := by
  have single : decompose .compatible 4 c.toNat = [0x22] :=
    decompose_of_mem_quoteCodes (isQuote_iff.mp quote)
  unfold nfkc normalize
  rw [List.flatMap_append, List.flatMap_cons, single, List.singleton_append,
    reorder_append isSolitary_quote.starts, isSolitary_quote.compose_append, List.map_append,
    List.map_cons]

end Quote

end Dossier.Text
