import Dossier.Proofs.Match.Glob
import Dossier.Proofs.Match.Standing
import Dossier.Proofs.Match.Whole
import Dossier.Proofs.Text.Variant

/-!
Plain words beside the same words with stars. A plain word is found by folding and a word with stars
by simple case folding, so that the two agree as far as these do: on every text if no letter of the
word is one that they treat differently, and otherwise not.
-/

namespace Dossier

namespace Text

section Agree

variable {α β γ : Type} {f : α → β} {g : α → γ} {w v : List α}

def Agree (f : α → β) (g : α → γ) (w v : List α) : Prop :=
  ∀ c ∈ w, ∀ d ∈ v, f d = f c ↔ g d = g c

theorem Agree.symm (h : Agree f g w v) : Agree g f w v :=
  fun c hc d hd => (h c hc d hd).symm

theorem Agree.mono {u : List α} (h : Agree f g w v) (sub : u ⊆ v) : Agree f g w u :=
  fun c hc d hd => h c hc d (sub hd)

theorem Agree.map_eq_iff (h : Agree f g w v) : v.map f = w.map f ↔ v.map g = w.map g := by
  induction w generalizing v with
  | nil => rw [List.map_nil, List.map_nil, List.map_eq_nil_iff, List.map_eq_nil_iff]
  | cons c w ih =>
    cases v with
    | nil => exact iff_of_false (List.cons_ne_nil _ _).symm (List.cons_ne_nil _ _).symm
    | cons d v =>
      have first := h c List.mem_cons_self d List.mem_cons_self
      have later : Agree f g w v :=
        fun e he k hk => h e (List.mem_cons_of_mem c he) k (List.mem_cons_of_mem d hk)
      simp only [List.map_cons, List.cons_eq_cons, first, ih later]

theorem HasStart.of_agree (h : Agree f g w v) (found : HasStart f w v) : HasStart g w v := by
  obtain ⟨piece, after, rfl, same⟩ := found
  exact ⟨piece, after, rfl, (h.mono (List.subset_append_left _ _)).map_eq_iff.mp same⟩

theorem HasPart.of_agree (h : Agree f g w v) (found : HasPart f w v) : HasPart g w v := by
  obtain ⟨before, piece, after, rfl, same⟩ := found
  obtain ⟨_, _, cut, same⟩ :=
    HasStart.of_agree (h.mono (List.subset_append_right _ _)) ⟨piece, after, rfl, same⟩
  exact ⟨before, _, _, congrArg (before ++ ·) cut, same⟩

end Agree

theorem agree_of_no_clash {w v : List Char} (h : ∀ c ∈ w, ∀ d ∈ v, ¬Clash c d) :
    Agree foldChar caseClass w v := by
  intro c hc d hd
  have none := h c hc d hd
  rw [clash_iff, Decidable.not_not] at none
  rw [eq_comm, none, eq_comm]

end Text

namespace Pattern

variable {w v : String}

/-- The plain word `w` agrees on the text `v` with the same word between stars, with the word before
a star, and with the word as a pattern for the whole text. -/
structure ReadsAlike (w v : String) : Prop where
  inside : ((compile w false).grade v).isMatch = true ↔
    ((compile ("*" ++ w ++ "*") false).grade v).isMatch = true
  start : 0.9 ≤ ((compile w false).grade v).score ↔
    ((compile (w ++ "*") false).grade v).isMatch = true
  whole : ((compile w false).grade v).score = 1.0 ↔ Glob.accepts w.toList v.toList = true

section Word

variable (literal : ∀ c ∈ w.toList, Query.isWildcard c = false)

include literal

theorem compile_of_stars {starred : String} (stars : ∃ before after,
    starred.toList = before ++ (w.toList ++ after) ∧ before ∈ [[], ['*']] ∧ after = ['*']) :
    compile starred false = .glob starred := by
  obtain ⟨before, _, chars, few, rfl⟩ := stars
  have none : w.toList.countP Query.isWildcard = 0 := by
    refine List.countP_eq_zero.mpr fun c hc => ?_
    rw [literal c hc]
    exact Bool.false_ne_true
  have count : starred.toList.countP Query.isWildcard = before.countP Query.isWildcard + 1 := by
    rw [chars, List.countP_append, List.countP_append, none, Nat.zero_add]
    rfl
  rw [compile]
  apply compile_of_wildcard
  · rw [Query.containsWildcard, List.any_eq_true, chars]
    exact ⟨'*', List.mem_append_right _ (List.mem_append_right _ List.mem_cons_self), rfl⟩
  · rw [Glob.isUsable, count, decide_eq_true_eq]
    simp only [List.mem_cons, List.not_mem_nil, or_false] at few
    rcases few with rfl | rfl <;> decide

theorem isMatch_between_stars_iff :
    ((compile ("*" ++ w ++ "*") false).grade v).isMatch = true ↔
      Text.HasPart Text.caseClass w.toList v.toList := by
  have chars : ("*" ++ w ++ "*").toList = ['*'] ++ (w.toList ++ ['*']) := by
    rw [String.toList_append, String.toList_append]
    rfl
  rw [compile_of_stars literal ⟨_, _, chars, by simp, rfl⟩, isMatch_glob_iff, chars,
    List.singleton_append, Glob.cuts_star]
  simp only [Glob.cuts_literal_append literal, Glob.cuts_star, Glob.cuts_nil]
  constructor
  · rintro ⟨before, _, whole, piece, after, rfl, same, -⟩
    exact ⟨before, piece, after, whole, same⟩
  · rintro ⟨before, piece, after, whole, same⟩
    exact ⟨before, _, whole, piece, after, rfl, same, after, [], (List.append_nil _).symm, rfl⟩

theorem isMatch_before_star_iff :
    ((compile (w ++ "*") false).grade v).isMatch = true ↔
      Text.HasStart Text.caseClass w.toList v.toList := by
  have chars : (w ++ "*").toList = [] ++ (w.toList ++ ['*']) := by
    rw [String.toList_append]
    rfl
  rw [compile_of_stars literal ⟨_, _, chars, by simp, rfl⟩, isMatch_glob_iff, chars,
    List.nil_append]
  simp only [Glob.cuts_literal_append literal, Glob.cuts_star, Glob.cuts_nil]
  constructor
  · rintro ⟨piece, after, whole, same, -⟩
    exact ⟨piece, after, whole, same⟩
  · rintro ⟨piece, after, whole, same⟩
    exact ⟨piece, after, whole, same, after, [], (List.append_nil _).symm, rfl⟩

theorem accepts_literal_iff :
    Glob.accepts w.toList v.toList = true ↔
      v.toList.map Text.caseClass = w.toList.map Text.caseClass := by
  have cut : Glob.Cuts (w.toList ++ []) v.toList ↔ _ := Glob.cuts_literal_append literal
  rw [List.append_nil] at cut
  rw [Glob.accepts_iff_cuts, cut]
  simp only [Glob.cuts_nil]
  constructor
  · rintro ⟨piece, _, whole, same, rfl⟩
    rw [whole, List.append_nil]
    exact same
  · intro same
    exact ⟨v.toList, [], (List.append_nil _).symm, same, rfl⟩

variable (filled : w.toList ≠ [])

include filled

theorem isMatch_word_iff :
    ((compile w false).grade v).isMatch = true ↔
      Text.HasPart Text.foldChar w.toList v.toList := by
  rw [compile_of_literal literal, grade, isMatch_plainGrade_iff]
  exact (and_iff_right (Text.fold_ne_nil filled)).trans Text.map_infix_map_iff

theorem score_word_ge_iff :
    0.9 ≤ ((compile w false).grade v).score ↔ Text.HasStart Text.foldChar w.toList v.toList := by
  rw [compile_of_literal literal, grade]
  refine (Grade.score_le_iff .start _).trans ?_
  rw [start_le_plainGrade_iff]
  exact (and_iff_right (Text.fold_ne_nil filled)).trans Text.map_prefix_map_iff

theorem score_word_eq_iff :
    ((compile w false).grade v).score = 1.0 ↔
      v.toList.map Text.foldChar = w.toList.map Text.foldChar := by
  rw [compile_of_literal literal, grade, Grade.score_eq_one_iff, plainGrade_eq_whole_iff]
  exact and_iff_right (Text.fold_ne_nil filled)

theorem readsAlike_of_no_clash (apart : ∀ c ∈ w.toList, ∀ d ∈ v.toList, ¬Text.Clash c d) :
    ReadsAlike w v := by
  have agree := Text.agree_of_no_clash apart
  constructor
  · rw [isMatch_word_iff literal filled, isMatch_between_stars_iff literal]
    exact ⟨Text.HasPart.of_agree agree, Text.HasPart.of_agree agree.symm⟩
  · rw [score_word_ge_iff literal filled, isMatch_before_star_iff literal]
    exact ⟨Text.HasStart.of_agree agree, Text.HasStart.of_agree agree.symm⟩
  · rw [score_word_eq_iff literal filled, accepts_literal_iff literal]
    exact agree.map_eq_iff

theorem not_readsAlike_of_clash {c d : Char} (mem : c ∈ w.toList) (clash : Text.Clash c d) :
    ∃ v, ¬ReadsAlike w v := by
  obtain ⟨before, after, chars⟩ := List.append_of_mem mem
  refine ⟨String.ofList (before ++ d :: after), fun alike => ?_⟩
  have whole := alike.whole
  rw [score_word_eq_iff literal filled, accepts_literal_iff literal, String.toList_ofList,
    chars] at whole
  simp only [List.map_append, List.map_cons, List.append_cancel_left_eq, List.cons.injEq,
    and_true] at whole
  rw [Text.clash_iff] at clash
  apply clash
  rw [eq_comm, whole, eq_comm]

end Word

/-- Plain words and words with stars agree as long as no letter of the text clashes with a letter of
the word. The words on which they agree for every text are those without a letter that clashes with
another. -/
theorem readsAlike_iff {w : String} (filled : w.toList ≠ [])
    (literal : ∀ c ∈ w.toList, Query.isWildcard c = false) :
    (∀ v : String, (∀ c ∈ w.toList, ∀ d ∈ v.toList, ¬Text.Clash c d) → ReadsAlike w v) ∧
    ((∀ v, ReadsAlike w v) ↔ ∀ c ∈ w.toList, ∀ d, ¬Text.Clash c d) := by
  refine ⟨fun v => readsAlike_of_no_clash literal filled, ?_, ?_⟩
  · intro alike c mem d clash
    obtain ⟨v, differs⟩ := not_readsAlike_of_clash literal filled mem clash
    exact differs (alike v)
  · intro apart v
    exact readsAlike_of_no_clash literal filled fun c hc d _ => apart c hc d

/-- An umlaut and a sharp s, in capitals. -/
theorem readsAlike_iff_umlaut :
    let w := "süß"
    let v := "Das ist SÜẞ."
    w.toList ≠ [] ∧ (∀ c ∈ w.toList, Query.isWildcard c = false) ∧
      (∀ c ∈ w.toList, ∀ d ∈ v.toList, ¬Text.Clash c d) ∧ ReadsAlike w v ∧
      ((compile w false).grade v).isMatch = true := by
  intro w v
  have filled : w.toList ≠ [] := by decide +kernel
  have noWildcard : w.toList.all (fun c => !Query.isWildcard c) = true := by decide +kernel
  have noClash : w.toList.all (fun c => v.toList.all fun d => !decide (Text.Clash c d)) = true := by
    decide +kernel
  have literal : ∀ c ∈ w.toList, Query.isWildcard c = false := by
    intro c hc
    simpa using List.all_eq_true.mp noWildcard c hc
  have apart : ∀ c ∈ w.toList, ∀ d ∈ v.toList, ¬Text.Clash c d := by
    intro c hc d hd
    simpa using List.all_eq_true.mp (List.all_eq_true.mp noClash c hc) d hd
  exact ⟨filled, literal, apart, (readsAlike_iff filled literal).1 v apart, by decide +kernel⟩

/-- In capitals the sigma at the end of a word is like any other, and simple folding knows no
dotted capital I. -/
theorem final_sigma_reads_apart :
    (compile "ΟΔΟΣ" false).grade "οδος" = .miss ∧ (compile "*ΟΔΟΣ*" false).grade "οδος" = .wild ∧
      ¬ReadsAlike "ΟΔΟΣ" "οδος" ∧
      (compile "istanbul" false).grade "İSTANBUL" = .whole ∧
      (compile "*istanbul*" false).grade "İSTANBUL" = .miss ∧
      ¬ReadsAlike "istanbul" "İSTANBUL" := by
  have missed : (compile "ΟΔΟΣ" false).grade "οδος" = .miss := by decide +kernel
  have taken : (compile "*ΟΔΟΣ*" false).grade "οδος" = .wild := by decide +kernel
  have found : (compile "istanbul" false).grade "İSTANBUL" = .whole := by decide +kernel
  have left : (compile "*istanbul*" false).grade "İSTANBUL" = .miss := by decide +kernel
  refine ⟨missed, taken, fun alike => ?_, found, left, fun alike => ?_⟩
  · have inside := alike.inside
    change _ ↔ ((compile "*ΟΔΟΣ*" false).grade "οδος").isMatch = true at inside
    rw [missed, taken] at inside
    exact absurd (inside.mpr rfl) (by decide)
  · have inside := alike.inside
    change _ ↔ ((compile "*istanbul*" false).grade "İSTANBUL").isMatch = true at inside
    rw [found, left] at inside
    exact absurd (inside.mp rfl) (by decide)

end Pattern

end Dossier
