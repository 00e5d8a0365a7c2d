import Dossier.Proofs.Match.Highlight

/-!
Evaluations apart from their highlights. What matches, how well and at which paths does not depend
on what is highlighted, so that two settings that search the same fields differ in highlights alone.
-/

namespace Dossier

def Outcome.relight (f : List String → List String) (o : Outcome) : Outcome :=
  ⟨o.grade, f o.highlights⟩

def Hit.relight (f : List String → List String) (h : Hit) : Hit := ⟨h.path, f h.highlights⟩

def Evaluation.relight (f : List String → List String) (v : Evaluation) : Evaluation :=
  ⟨v.matched, v.grade, v.hits.map (Hit.relight f)⟩

namespace Evaluation

variable (f : List String → List String) (v w : Evaluation)

theorem relight_not : (v.relight f).not = v.not.relight f := rfl

theorem relight_and : (v.relight f).and (w.relight f) = (v.and w).relight f := by
  rw [and, and, relight, relight, relight, List.map_append]

theorem relight_or : (v.relight f).or (w.relight f) = (v.or w).relight f := by
  rw [or, or, relight, relight, relight, List.map_append]

end Evaluation

namespace Plan

variable {f g : List String → List String}

theorem map_addHit (f : List String → List String) (hits : List Hit) (path : String) (o : Outcome) :
    (addHit hits path o).map (Hit.relight f) =
      addHit (hits.map (Hit.relight f)) path (o.relight f) := by
  have known : (hits.map (Hit.relight f)).any (·.path = path) = hits.any (·.path = path) := by
    rw [List.any_map]
    rfl
  rw [addHit, addHit, known]
  split
  · rfl
  · rw [List.map_append]
    rfl

def reportAll (found : List (String × Outcome)) : Evaluation :=
  ⟨!found.isEmpty, found.foldl (fun g c => g.max c.2.grade) .miss,
    found.foldl (fun hits c => addHit hits c.1 c.2) []⟩

theorem reportAll_relight (f : List String → List String) (found : List (String × Outcome)) :
    (reportAll found).relight f = reportAll (found.map fun c => (c.1, c.2.relight f)) := by
  have grade (best : Grade) :
      (found.map fun c => (c.1, c.2.relight f)).foldl (fun g c => g.max c.2.grade) best =
        found.foldl (fun g c => g.max c.2.grade) best := by
    rw [List.foldl_map]
    rfl
  have hits (reported : List Hit) :
      (found.foldl (fun hits c => addHit hits c.1 c.2) reported).map (Hit.relight f) =
        (found.map fun c => (c.1, c.2.relight f)).foldl (fun hits c => addHit hits c.1 c.2)
          (reported.map (Hit.relight f)) := by
    clear grade
    induction found generalizing reported with
    | nil => rfl
    | cons c rest ih => rw [List.foldl_cons, ih, map_addHit, List.map_cons, List.foldl_cons]
  rw [Evaluation.relight, reportAll, reportAll, grade, hits, List.isEmpty_map, List.map_nil]

/-- Up to these changes, two settings highlight alike what they find in some texts. -/
def LightsAlike (f g : List String → List String) (s s' : Setting) (texts : List String) : Prop :=
  ∀ p : Pattern, f (p.outcome s.highlight s.context texts).highlights =
    g (p.outcome s'.highlight s'.context texts).highlights

variable {s s' : Setting} {t : Target}

theorem relight_outcome {texts : List String} (alike : LightsAlike f g s s' texts) (p : Pattern) :
    (p.outcome s.highlight s.context texts).relight f =
      (p.outcome s'.highlight s'.context texts).relight g := by
  rw [Outcome.relight, Outcome.relight, alike p, Pattern.outcome_eq, Pattern.outcome_eq]

theorem relight_evaluateScoped {cs : List (String × Value)}
    (alike : ∀ c ∈ cs, LightsAlike f g s s' c.2.texts) (p : Pattern) :
    (evaluateScoped p s cs).relight f = (evaluateScoped p s' cs).relight g := by
  induction cs with
  | nil => rfl
  | cons c rest ih =>
    have grade := congrArg Outcome.grade (relight_outcome (alike c List.mem_cons_self) p)
    have highlights := alike c List.mem_cons_self p
    simp only [Outcome.relight] at grade
    rw [evaluateScoped, evaluateScoped, grade]
    split
    · simp only [Evaluation.relight, List.map_cons, List.map_nil, Hit.relight, highlights]
    · exact ih fun d later => alike d (List.mem_cons_of_mem c later)

theorem map_matching (f : List String → List String) (p : Pattern) (s : Setting)
    (cs : List (String × Value)) :
    ((matching p s cs).map fun c => (c.1, c.2.relight f)) =
      (cs.map fun c => (c.1, (p.outcome s.highlight s.context c.2.texts).relight f)).filter
        (·.2.grade.isMatch) := by
  rw [matching, List.filter_map, List.map_map, List.filter_map]
  rfl

theorem relight_evaluateUnscoped {cs : List (String × Value)}
    (alike : ∀ c ∈ cs, LightsAlike f g s s' c.2.texts) (p : Pattern) :
    (evaluateUnscoped p s cs).relight f = (evaluateUnscoped p s' cs).relight g := by
  have found : ((matching p s cs).map fun c => (c.1, c.2.relight f)) =
      (matching p s' cs).map fun c => (c.1, c.2.relight g) := by
    rw [map_matching, map_matching]
    refine congrArg (List.filter _) (List.map_congr_left ?_)
    intro c mem
    rw [relight_outcome (alike c mem)]
  have reported := congrArg reportAll found
  rw [← reportAll_relight, ← reportAll_relight] at reported
  exact reported

/-- Two settings that search the same fields give evaluations that are alike as far as their
highlights are. -/
theorem relight_run (fields : s.fields = s'.fields)
    (alike : ∀ v : Value, (∀ text ∈ v.texts, text ∈ t.texts) → LightsAlike f g s s' v.texts)
    (p : Plan) : (p.run t s).relight f = (p.run t s').relight g := by
  induction p with
  | term field pattern =>
    cases field with
    | none =>
      rw [run, run, ← fields]
      apply relight_evaluateUnscoped
      exact fun c mem => alike c.2 fun text inside => Target.mem_texts_of_candidates mem inside
    | some field =>
      rw [run, run]
      apply relight_evaluateScoped
      exact fun c mem => alike c.2 fun text inside => Target.mem_texts_of_occurrences mem inside
  | not p ih => rw [run, run, ← Evaluation.relight_not, ← Evaluation.relight_not, ih]
  | and p q hp hq =>
    rw [run, run, ← Evaluation.relight_and, ← Evaluation.relight_and, hp, hq]
  | or p q hp hq =>
    rw [run, run, ← Evaluation.relight_or, ← Evaluation.relight_or, hp, hq]

def unlit (_ : List String) : List String := []

def blanked (snippets : List String) : List String := snippets.map fun _ => ""

theorem lightsAlike_unlit (texts : List String) (off : s'.highlight = false) :
    LightsAlike unlit id s s' texts := by
  intro p
  rw [off]
  rfl

theorem lightsAlike_blanked {texts : List String} (same : s.highlight = s'.highlight)
    (fits : ∀ text ∈ texts, Snippet.Fits s.context text.toList)
    (fits' : ∀ text ∈ texts, Snippet.Fits s'.context text.toList) :
    LightsAlike blanked blanked s s' texts := by
  intro p
  rw [← same]
  cases s.highlight with
  | false => rfl
  | true =>
    rw [blanked, blanked, List.map_const', List.map_const', Pattern.length_highlights_outcome fits,
      Pattern.length_highlights_outcome fits']

end Plan

end Dossier
