import Dossier.Proofs.Match.Meaning
import Dossier.Proofs.Match.Standing
import Dossier.Proofs.Text.Fold

/-!
Terms that write out a whole value. Up to case, a plain word is found in a value that is that word,
and with the best grade of all.
-/

namespace Dossier

namespace Pattern

variable {w v : String}

theorem compile_of_literal (literal : ∀ c ∈ w.toList, Query.isWildcard c = false) :
    compile w false = .part w := by
  have plain : Query.containsWildcard w = false := by
    rw [Query.containsWildcard, List.any_eq_false]
    intro c hc
    rw [literal c hc]
    exact Bool.false_ne_true
  rw [compile, compileWith, plain]
  rfl

theorem grade_of_fold_eq (filled : v.toList ≠ []) (same : Text.fold w.toList = Text.fold v.toList) :
    (part w).grade v = .whole :=
  plainGrade_eq_whole_iff.mpr ⟨same ▸ Text.fold_ne_nil filled, same.symm⟩

theorem grade_outcome_of_whole {p : Pattern} {texts : List String} (mem : v ∈ texts)
    (whole : p.grade v = .whole) (highlight : Bool) (context : Nat) :
    (p.outcome highlight context texts).grade = .whole := by
  have hit : (v, p.grade v) ∈ (texts.map fun t => (t, p.grade t)).filter (·.2.isMatch) := by
    rw [List.mem_filter, whole]
    exact ⟨List.mem_map.mpr ⟨v, mem, by rw [whole]⟩, rfl⟩
  have graded := List.mem_map_of_mem (f := Prod.snd) hit
  rw [outcome, Grade.foldl_max, Grade.miss_max]
  exact Grade.best_eq_whole (whole ▸ graded)

end Pattern

namespace Plan

variable {p : Pattern} {s : Setting} {cs : List (String × Value)}

theorem matched_evaluateUnscoped_iff :
    (evaluateUnscoped p s cs).matched = true ↔ matching p s cs ≠ [] := by
  simp [evaluateUnscoped]

theorem grade_evaluateUnscoped :
    (evaluateUnscoped p s cs).grade = Grade.best ((matching p s cs).map (·.2.grade)) :=
  (Grade.foldl_max _ _ _).trans (Grade.miss_max _)

/-- One value that is matched as a whole gives a term without a field the best grade. -/
theorem evaluateUnscoped_of_whole {c : String × Value} (mem : c ∈ cs)
    (whole : (p.outcome s.highlight s.context c.2.texts).grade = .whole) :
    (evaluateUnscoped p s cs).matched = true ∧ (evaluateUnscoped p s cs).grade = .whole := by
  have hit : (c.1, p.outcome s.highlight s.context c.2.texts) ∈ matching p s cs := by
    rw [matching, List.mem_filter, whole]
    exact ⟨List.mem_map_of_mem mem, rfl⟩
  constructor
  · rw [matched_evaluateUnscoped_iff]
    exact List.ne_nil_of_mem hit
  · have graded := List.mem_map_of_mem (f := fun c : String × Outcome => c.2.grade) hit
    rw [grade_evaluateUnscoped]
    exact Grade.best_eq_whole (whole ▸ graded)

end Plan

end Dossier
