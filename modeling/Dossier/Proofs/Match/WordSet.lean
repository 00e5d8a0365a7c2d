import Dossier.Proofs.Match.Conjunction
import Dossier.Proofs.Match.Widening

/-!
The words of a plain text as a set. A chain of conjunctions matches where each part does, has the
best of their grades and reports what any of them reports; the order of the parts, and how often
each of them stands there, is lost in all three.
-/

namespace Dossier

namespace Evaluation

variable {u v w v' : Evaluation} {vs vs' : List Evaluation}

/-- Both evaluations tell the same, up to the order of their hits and what the hits show. -/
structure TellsSame (v w : Evaluation) : Prop where
  matched : v.matched = w.matched
  grade : v.grade = w.grade
  paths : ∀ path, path ∈ v.paths ↔ path ∈ w.paths

theorem TellsSame.score (same : v.TellsSame w) : v.score = w.score := by
  rw [Evaluation.score, same.grade, Evaluation.score]

theorem TellsSame.of_isWithin (there : v.IsWithin w) (back : w.IsWithin v) : v.TellsSame w where
  matched := Bool.eq_iff_iff.mpr ⟨there.matched, back.matched⟩
  grade := Grade.eq_of_rank_eq
    (Nat.le_antisymm (score_le_iff.mp there.score) (score_le_iff.mp back.score))
  paths := fun _ => ⟨fun mem => there.paths mem, fun mem => back.paths mem⟩

def IsSettled (v : Evaluation) : Prop := v.matched = false → v.grade = .miss

theorem isSettled_and (v w : Evaluation) : (v.and w).IsSettled := by
  intro failed
  have both : (v.matched && w.matched) = false := failed
  simp [and, both]

theorem isSettled_foldl_and (settled : v.IsSettled) : (vs.foldl .and v).IsSettled := by
  induction vs generalizing v with
  | nil => exact settled
  | cons u rest ih => exact ih (isSettled_and v u)

theorem hits_foldl_and : (vs.foldl .and v).hits = (v :: vs).flatMap (·.hits) := by
  induction vs generalizing v with
  | nil => simp
  | cons u rest ih => simp [ih, and]

theorem mem_paths_foldl_and {path : String} :
    path ∈ (vs.foldl .and v).paths ↔ ∃ u ∈ v :: vs, path ∈ u.paths := by
  unfold paths
  rw [hits_foldl_and]
  simp only [List.mem_map, List.mem_flatMap]
  constructor
  · rintro ⟨hit, ⟨u, mem, hit_mem⟩, here⟩
    exact ⟨u, mem, hit, hit_mem, here⟩
  · rintro ⟨u, mem, hit, hit_mem, here⟩
    exact ⟨hit, ⟨u, mem, hit_mem⟩, here⟩

/-- A chain of the same parts has what the other has. What it matches needs every part to be in the
other chain, and what it scores and reports needs every part to come from there. -/
theorem isWithin_foldl_and (settled : v.IsSettled) (same : ∀ u, u ∈ v :: vs ↔ u ∈ v' :: vs') :
    (vs.foldl .and v).IsWithin (vs'.foldl .and v') := by
  have matched : (vs.foldl .and v).matched = true → (vs'.foldl .and v').matched = true := by
    rw [matched_foldl_and, matched_foldl_and]
    intro all u mem
    exact all u ((same u).mpr mem)
  refine ⟨matched, ?_, ?_⟩
  · rw [score_le_iff]
    by_cases all : (vs.foldl .and v).matched = true
    · rw [foldl_and_of_matched (matched_foldl_and.mp all),
        foldl_and_of_matched (matched_foldl_and.mp (matched all))]
      apply Grade.rank_best_le
      apply List.map_subset
      intro u mem
      exact (same u).mp mem
    · rw [isSettled_foldl_and settled (Bool.eq_false_iff.mpr all)]
      exact Nat.zero_le _
  · intro path reported
    obtain ⟨u, mem, here⟩ := mem_paths_foldl_and.mp reported
    exact mem_paths_foldl_and.mpr ⟨u, (same u).mp mem, here⟩

theorem tellsSame_foldl_and (settled : v.IsSettled) (settled' : v'.IsSettled)
    (same : ∀ u, u ∈ v :: vs ↔ u ∈ v' :: vs') :
    (vs.foldl .and v).TellsSame (vs'.foldl .and v') :=
  .of_isWithin (isWithin_foldl_and settled same)
    (isWithin_foldl_and settled' fun u => (same u).symm)

end Evaluation

namespace Query

variable {text text' : String} {expr expr' : Expr} {t : Target} {s : Setting}

theorem isSettled_evaluation_term (q : Term) : ((Expr.term q).evaluation t s).IsSettled := by
  intro failed
  rw [Expr.evaluation_term_of_unmatched failed]
  rfl

theorem Expr.aborts_foldl_and {e : Expr} {es : List Expr} :
    (Plan.compile (es.foldl .and e)).aborts t s = true ↔
      ∃ f ∈ e :: es, (Plan.compile f).aborts t s = true := by
  induction es generalizing e with
  | nil => simp
  | cons f rest ih =>
    have both : (Plan.compile (.and e f)).aborts t s = true ↔
        (Plan.compile e).aborts t s = true ∨ (Plan.compile f).aborts t s = true :=
      Bool.or_eq_true_iff
    rw [List.foldl_cons, ih]
    simp only [List.mem_cons, exists_eq_or_imp, both, or_assoc]

section

variable (asked : freeText text = some expr) (asked' : freeText text' = some expr')
  (same : ∀ w, w ∈ Text.words text.toList ↔ w ∈ Text.words text'.toList)

include asked asked' same

theorem exists_terms_of_same_words : ∃ e es e' es', expr = es.foldl .and e ∧
    expr' = es'.foldl .and e' ∧ (∀ f, f ∈ e :: es ↔ f ∈ e' :: es') ∧
    (∃ q, e = .term q) ∧ ∃ q, e' = .term q := by
  obtain ⟨w, ws, words, rfl⟩ := exists_words_freeText asked
  obtain ⟨w', ws', words', rfl⟩ := exists_words_freeText asked'
  refine ⟨_, _, _, _, rfl, rfl, ?_, ⟨_, rfl⟩, ⟨_, rfl⟩⟩
  intro f
  rw [words, words'] at same
  have here : f ∈ (w :: ws).map (fun w => Expr.term (Term.ofWord w)) ↔
      f ∈ (w' :: ws').map (fun w => Expr.term (Term.ofWord w)) := by
    simp only [List.mem_map, same]
  exact here

/-- Texts with the same words are evaluated alike, on every record and every leaf, and with any
fields. -/
theorem evaluation_of_same_words (t : Target) (s : Setting) :
    (expr.evaluation t s).TellsSame (expr'.evaluation t s) := by
  obtain ⟨e, es, e', es', rfl, rfl, terms, ⟨q, rfl⟩, ⟨q', rfl⟩⟩ :=
    exists_terms_of_same_words asked asked' same
  rw [Expr.evaluation_foldl_and, Expr.evaluation_foldl_and]
  apply Evaluation.tellsSame_foldl_and (isSettled_evaluation_term q) (isSettled_evaluation_term q')
  intro u
  rw [← List.map_cons, ← List.map_cons, List.mem_map, List.mem_map]
  simp only [terms]

theorem aborts_of_same_words (t : Target) (s : Setting) :
    (Plan.compile expr).aborts t s = (Plan.compile expr').aborts t s := by
  obtain ⟨e, es, e', es', rfl, rfl, terms, -, -⟩ := exists_terms_of_same_words asked asked' same
  rw [Bool.eq_iff_iff, Expr.aborts_foldl_and, Expr.aborts_foldl_and]
  simp only [terms]

end

end Query

end Dossier
