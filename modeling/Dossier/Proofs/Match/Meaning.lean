import Dossier.Match.Plan
import Dossier.Proofs.Match.Grade
import Dossier.Proofs.Query.Occurrence

/-!
The meaning of an evaluation, read off the expression instead of its plan. Truth is Boolean. The
hits are those of the true terms outside negations. The score is the best among the terms outside
negations that are matched together with everything around them. An evaluation that aborts
(`Plan.aborts`) gives none of the three.
-/

namespace Dossier

def Evaluation.score (v : Evaluation) : Float := v.grade.score

namespace Query

namespace Expr

variable (t : Target) (s : Setting)

def evaluation (e : Expr) : Evaluation := (Plan.compile e).run t s

theorem evaluation_group (e : Expr) : (Expr.group e).evaluation t s = e.evaluation t s := rfl

theorem evaluation_not (e : Expr) : (Expr.not e).evaluation t s = (e.evaluation t s).not := rfl

theorem evaluation_and (e f : Expr) :
    (Expr.and e f).evaluation t s = (e.evaluation t s).and (f.evaluation t s) := rfl

theorem evaluation_or (e f : Expr) :
    (Expr.or e f).evaluation t s = (e.evaluation t s).or (f.evaluation t s) := rfl

/-- A term is true if it matches by itself. -/
def truth (q : Term) : Bool := ((Expr.term q).evaluation t s).matched

end Expr

namespace Occurrence

variable (t : Target) (s : Setting)

def evaluation (o : Occurrence) : Evaluation := (Expr.term o.term).evaluation t s

/-- It is matched, and so is every expression around it. -/
def isLive (o : Occurrence) : Bool := o.path.all fun e => (e.evaluation t s).matched

def contributes (o : Occurrence) : Bool := o.isPositive && (o.evaluation t s).matched

def counts (o : Occurrence) : Bool := o.isPositive && o.isLive t s

@[simp] theorem evaluation_within (e : Expr) (o : Occurrence) :
    (o.within e).evaluation t s = o.evaluation t s := rfl

@[simp] theorem contributes_within (e : Expr) (o : Occurrence) :
    (o.within e).contributes t s = (!e.isNot && o.contributes t s) := by
  simp [contributes, Bool.and_assoc]

@[simp] theorem counts_within (e : Expr) (o : Occurrence) :
    (o.within e).counts t s =
      (!e.isNot && (e.evaluation t s).matched && o.counts t s) := by
  have live : (o.within e).isLive t s = ((e.evaluation t s).matched && o.isLive t s) := rfl
  simp only [counts, isPositive_within, live]
  cases e.isNot <;> cases o.isPositive <;> simp

end Occurrence

theorem evaluateScoped_of_unmatched {p : Pattern} {s : Setting} {cs : List (String × Value)}
    (h : (Plan.evaluateScoped p s cs).matched = false) : Plan.evaluateScoped p s cs = .miss := by
  induction cs with
  | nil => rfl
  | cons c rest ih =>
    rw [Plan.evaluateScoped] at h ⊢
    split at h
    · cases h
    · rename_i fails
      rw [if_neg fails]
      exact ih h

theorem evaluateUnscoped_of_unmatched {p : Pattern} {s : Setting} {cs : List (String × Value)}
    (h : (Plan.evaluateUnscoped p s cs).matched = false) :
    Plan.evaluateUnscoped p s cs = .miss := by
  have none_found : Plan.matching p s cs = [] := by simpa [Plan.evaluateUnscoped] using h
  simp [Plan.evaluateUnscoped, none_found, Evaluation.miss]

namespace Expr

variable {t : Target} {s : Setting}

theorem evaluation_term_of_unmatched {q : Term}
    (h : ((Expr.term q).evaluation t s).matched = false) :
    (Expr.term q).evaluation t s = .miss := by
  obtain ⟨field, value, exact⟩ := q
  cases field with
  | none => exact evaluateUnscoped_of_unmatched h
  | some f => exact evaluateScoped_of_unmatched h

theorem matched_eq_value (e : Expr) : (e.evaluation t s).matched = e.value (truth t s) := by
  induction e with
  | term q => rfl
  | group e ih => exact ih
  | not e ih => rw [evaluation_not, value, ← ih]; rfl
  | and e f he hf => rw [evaluation_and, value, ← he, ← hf]; rfl
  | or e f he hf => rw [evaluation_or, value, ← he, ← hf]; rfl

theorem hits_eq_flatMap (e : Expr) :
    (e.evaluation t s).hits =
      (e.occurrences.filter (·.contributes t s)).flatMap fun o => (o.evaluation t s).hits := by
  induction e with
  | term q =>
    cases h : ((Expr.term q).evaluation t s).matched with
    | true =>
      simp [occurrences, Occurrence.contributes, Occurrence.isPositive, Occurrence.evaluation,
        isNot, h]
    | false =>
      rw [evaluation_term_of_unmatched h]
      simp [occurrences, Occurrence.contributes, Occurrence.isPositive, Occurrence.evaluation,
        isNot, h, Evaluation.miss]
  | group e ih =>
    rw [evaluation_group, ih]
    simp [occurrences, List.filter_map, List.flatMap_map, Function.comp_def, isNot]
  | not e ih =>
    rw [evaluation_not]
    simp [occurrences, List.filter_map, Function.comp_def, isNot, Evaluation.not]
  | and e f he hf =>
    rw [evaluation_and, Evaluation.and]
    simp [he, hf, occurrences, List.filter_map, List.flatMap_map, Function.comp_def, isNot]
  | or e f he hf =>
    rw [evaluation_or, Evaluation.or]
    simp [he, hf, occurrences, List.filter_map, List.flatMap_map, Function.comp_def, isNot]

theorem counts_of_unmatched {e : Expr} (h : (e.evaluation t s).matched = false) :
    e.occurrences.filter (·.counts t s) = [] := by
  rw [List.filter_eq_nil_iff]
  intro o ho counted
  simp only [Occurrence.counts, Occurrence.isLive, Bool.and_eq_true, List.all_eq_true] at counted
  rw [counted.2 e (mem_path_of_mem_occurrences ho)] at h
  cases h

variable (t s) in
def countedGrades (e : Expr) : List Grade :=
  (e.occurrences.filter (·.counts t s)).map fun o => (o.evaluation t s).grade

theorem countedGrades_of_unmatched {e : Expr} (h : (e.evaluation t s).matched = false) :
    e.countedGrades t s = [] := by
  rw [countedGrades, counts_of_unmatched h, List.map_nil]

/-- Below a matched connective the places of both sides count as they do by themselves. -/
theorem countedGrades_of_matched {whole e f : Expr} (shape : whole = .and e f ∨ whole = .or e f)
    (h : (whole.evaluation t s).matched = true) :
    whole.countedGrades t s = e.countedGrades t s ++ f.countedGrades t s := by
  rcases shape with rfl | rfl <;>
    simp [countedGrades, occurrences, List.filter_map, List.map_map, Function.comp_def, isNot, h]

theorem grade_eq_best (e : Expr) :
    (e.evaluation t s).grade = Grade.best (e.countedGrades t s) := by
  induction e with
  | term q =>
    cases h : ((Expr.term q).evaluation t s).matched with
    | true =>
      simp [countedGrades, occurrences, Occurrence.counts, Occurrence.isPositive,
        Occurrence.isLive, Occurrence.evaluation, isNot, h]
    | false => rw [countedGrades_of_unmatched h, evaluation_term_of_unmatched h]; rfl
  | group e ih =>
    rw [evaluation_group, ih]
    cases h : (e.evaluation t s).matched with
    | true =>
      simp [countedGrades, occurrences, List.filter_map, List.map_map, Function.comp_def, isNot,
        evaluation_group, h]
    | false =>
      have whole : ((Expr.group e).evaluation t s).matched = false := h
      rw [countedGrades_of_unmatched h, countedGrades_of_unmatched whole]
  | not e ih =>
    have : (Expr.not e).countedGrades t s = [] := by
      simp [countedGrades, occurrences, List.filter_map, Function.comp_def, isNot]
    rw [this]
    rfl
  | and e f he hf =>
    cases h : ((Expr.and e f).evaluation t s).matched with
    | true =>
      have both : ((e.evaluation t s).matched && (f.evaluation t s).matched) = true := h
      rw [evaluation_and, Evaluation.and, countedGrades_of_matched (.inl rfl) h,
        Grade.best_append, ← he, ← hf]
      exact if_pos both
    | false =>
      have both : ((e.evaluation t s).matched && (f.evaluation t s).matched) = false := h
      rw [evaluation_and, Evaluation.and, countedGrades_of_unmatched h, both]
      rfl
  | or e f he hf =>
    -- A side that fails has a miss for its grade already, so that leaving it out changes nothing.
    have counted : ∀ g : Expr, (g.evaluation t s).grade = Grade.best (g.countedGrades t s) →
        (if (g.evaluation t s).matched then (g.evaluation t s).grade else .miss) =
          Grade.best (g.countedGrades t s) := by
      intro g hg
      split
      · exact hg
      · rename_i fails
        rw [countedGrades_of_unmatched (by simpa using fails), Grade.best_nil]
    have grade : ((Expr.or e f).evaluation t s).grade =
        (Grade.best (e.countedGrades t s)).max (Grade.best (f.countedGrades t s)) := by
      rw [← counted e he, ← counted f hf]
      rfl
    cases h : ((Expr.or e f).evaluation t s).matched with
    | true => rw [grade, countedGrades_of_matched (.inr rfl) h, Grade.best_append]
    | false =>
      have neither : ((e.evaluation t s).matched || (f.evaluation t s).matched) = false := h
      rw [Bool.or_eq_false_iff] at neither
      rw [grade, countedGrades_of_unmatched h, countedGrades_of_unmatched neither.1,
        countedGrades_of_unmatched neither.2, Grade.best_nil, Grade.max_miss]

end Expr

/-- The greatest of some scores, and zero if there are none. -/
def IsMaximum (x : Float) (xs : List Float) : Prop :=
  (xs = [] ∧ x = 0.0) ∨ (x ∈ xs ∧ ∀ y ∈ xs, y ≤ x)

theorem isMaximum_best (gs : List Grade) : IsMaximum (Grade.best gs).score (gs.map Grade.score) := by
  by_cases h : gs = []
  · exact .inl ⟨by simp [h], by simp [h, Grade.score]⟩
  · refine .inr ⟨List.mem_map_of_mem (Grade.best_mem h), ?_⟩
    intro y hy
    obtain ⟨g, hg, rfl⟩ := List.mem_map.mp hy
    exact (Grade.score_le_iff _ _).mpr (Grade.rank_le_best hg)

theorem evaluation_meaning (t : Target) (s : Setting) (e : Expr) :
    (e.evaluation t s).matched = e.value (Expr.truth t s) ∧
    (e.evaluation t s).hits =
      (e.occurrences.filter fun o => o.isPositive && (o.evaluation t s).matched).flatMap
        (fun o => (o.evaluation t s).hits) ∧
    (if (e.evaluation t s).matched then
      IsMaximum (e.evaluation t s).score
        ((e.occurrences.filter fun o => o.isPositive && o.isLive t s).map
          fun o => (o.evaluation t s).score)
    else (e.evaluation t s).score = 0.0) ∧
    (e.evaluation t s).score ∈ [0.0, 0.7, 0.8, 0.9, 1.0] := by
  refine ⟨e.matched_eq_value, e.hits_eq_flatMap, ?_, Grade.score_mem _⟩
  rw [Evaluation.score, Expr.grade_eq_best]
  split
  · have maximum := isMaximum_best (e.countedGrades t s)
    rw [Expr.countedGrades, List.map_map] at maximum
    exact maximum
  · rename_i fails
    rw [Expr.countedGrades_of_unmatched (by simpa using fails)]
    rfl

end Query

end Dossier
