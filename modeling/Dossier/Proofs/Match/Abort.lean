import Dossier.Proofs.Match.Snippet

/-!
Runs of a plan that a fault of the program ends. All it takes is an exact snippet whose end passes 64
bits. A run that goes through shows the highlights as they are cut, and every run goes through if the
texts of its target are short enough for the context.
-/

namespace Dossier

namespace Pattern

variable {p : Pattern} {highlight : Bool} {context : Nat} {texts : List String} {t : String}

theorem cutHighlight_of_overflows (long : p.Overflows context t) :
    p.cutHighlight context t = .error .overflow := by
  obtain ⟨exact, long⟩ := long
  cases p with
  | whole w | part w =>
    have cut := Snippet.cut_of_overflows long
    rw [source] at cut
    rw [cutHighlight, cut]
    rfl
  | glob w => exact absurd rfl (exact w)

theorem cutHighlight_of_not_overflows (short : ¬p.Overflows context t) :
    p.cutHighlight context t = .ok (p.highlight? context t) := by
  cases p with
  | whole w | part w =>
    have cut := Snippet.cut_of_not_overflows fun long => short ⟨by simp, long⟩
    rw [source] at cut
    rw [cutHighlight, cut, highlight?]
    rfl
  | glob w => rfl

theorem aborts_iff : p.aborts highlight context texts = true ↔
    highlight = true ∧ ∃ t ∈ p.picks texts, p.Overflows context t := by
  have cuts (t : String) : (p.cutHighlight context t).isOk = false ↔ p.Overflows context t := by
    by_cases long : p.Overflows context t
    · rw [cutHighlight_of_overflows long]
      exact iff_of_true rfl long
    · rw [cutHighlight_of_not_overflows long]
      exact iff_of_false Bool.noConfusion long
  simp only [aborts, Bool.and_eq_true, List.any_eq_true, Bool.not_eq_true', cuts, mem_picks_iff,
    and_assoc]

theorem aborts_of_fits (fits : ∀ t ∈ texts, Snippet.Fits context t.toList) :
    p.aborts highlight context texts = false := by
  rw [Bool.eq_false_iff, ne_eq, aborts_iff]
  rintro ⟨-, t, picked, long⟩
  exact not_overflows_of_fits (fits t (mem_picks_iff.mp picked).1) long

theorem highlights_outcome_of_not_aborts (through : p.aborts true context texts = false) :
    (p.outcome true context texts).highlights.map (fun s => Except.ok (some s)) =
      (p.picks texts).map (p.cutHighlight context) := by
  have short : ∀ t ∈ p.picks texts, ¬p.Overflows context t := by
    intro t picked long
    have ended : p.aborts true context texts = true := aborts_iff.mpr ⟨rfl, t, picked, long⟩
    rw [through] at ended
    cases ended
  have cut : (p.picks texts).map (p.cutHighlight context) =
      ((p.picks texts).map (p.highlight? context)).map .ok := by
    rw [List.map_map]
    exact List.map_congr_left fun t picked => cutHighlight_of_not_overflows (short t picked)
  rw [cut, ← highlights_outcome_of_not_overflows short, List.map_map]
  rfl

end Pattern

namespace Plan

variable {t : Target} {s : Setting} {cs : List (String × Value)} {p : Pattern} {hit : Hit}

def ShowsCut (s : Setting) (cs : List (String × Value)) (hit : Hit) : Prop :=
  ∃ c ∈ cs, ∃ p : Pattern, hit.path = c.1 ∧
    hit.highlights.map (fun text => Except.ok (some text)) =
      (p.picks c.2.texts).map (p.cutHighlight s.context)

theorem showsCut_of_mem_evaluateScoped (on : s.highlight = true)
    (through : scopedAborts p s cs = false) (mem : hit ∈ (evaluateScoped p s cs).hits) :
    ShowsCut s cs hit := by
  induction cs with
  | nil => cases mem
  | cons c rest ih =>
    rw [evaluateScoped] at mem
    rw [scopedAborts] at through
    by_cases matched : (p.outcome s.highlight s.context c.2.texts).grade.isMatch = true
    · rw [if_pos matched] at mem through
      obtain rfl := List.mem_singleton.mp mem
      rw [on] at through
      refine ⟨c, List.mem_cons_self, p, rfl, ?_⟩
      rw [on]
      exact Pattern.highlights_outcome_of_not_aborts through
    · rw [if_neg matched] at mem through
      obtain ⟨d, later, shown⟩ := ih through mem
      exact ⟨d, List.mem_cons_of_mem c later, shown⟩

theorem showsCut_of_mem_evaluateUnscoped (on : s.highlight = true)
    (through : ∀ c ∈ cs, p.aborts s.highlight s.context c.2.texts = false)
    (mem : hit ∈ (evaluateUnscoped p s cs).hits) : ShowsCut s cs hit := by
  rcases origin_of_mem_addHits mem with old | ⟨o, found, rfl⟩
  · cases old
  · obtain ⟨candidate, -⟩ := List.mem_filter.mp found
    obtain ⟨c, offered, rfl⟩ := List.mem_map.mp candidate
    have complete := through c offered
    rw [on] at complete
    refine ⟨c, offered, p, rfl, ?_⟩
    rw [on]
    exact Pattern.highlights_outcome_of_not_aborts complete

/-- A run that goes through shows in each of its hits what is cut. -/
theorem highlights_cut {plan : Plan} (on : s.highlight = true)
    (through : plan.aborts t s = false) (mem : hit ∈ (plan.run t s).hits) :
    ∃ cs, (∀ c ∈ cs, ∀ text ∈ c.2.texts, text ∈ t.texts) ∧ ShowsCut s cs hit := by
  induction plan with
  | term field p =>
    cases field with
    | none =>
      rw [aborts, List.any_eq_false] at through
      simp only [Bool.not_eq_true] at through
      exact ⟨_, fun c mem text inside => Target.mem_texts_of_candidates mem inside,
        showsCut_of_mem_evaluateUnscoped on through mem⟩
    | some field =>
      exact ⟨_, fun c mem text inside => Target.mem_texts_of_occurrences mem inside,
        showsCut_of_mem_evaluateScoped on through mem⟩
  | not p _ => cases mem
  | and p q hp hq | or p q hp hq =>
    obtain ⟨left, right⟩ := Bool.or_eq_false_iff.mp through
    rcases List.mem_append.mp mem with mem | mem
    · exact hp left mem
    · exact hq right mem

/-- A run goes through if none of the texts that it may read ends it. -/
theorem aborts_eq_false {plan : Plan} (silent : ∀ (p : Pattern) (texts : List String),
    (∀ text ∈ texts, text ∈ t.texts) → p.aborts s.highlight s.context texts = false) :
    plan.aborts t s = false := by
  induction plan with
  | term field p =>
    cases field with
    | none =>
      rw [aborts, List.any_eq_false]
      intro c mem
      rw [silent p c.2.texts fun text inside => Target.mem_texts_of_candidates mem inside]
      exact Bool.false_ne_true
    | some field =>
      have onward (cs : List (String × Value))
          (known : ∀ c ∈ cs, ∀ text ∈ c.2.texts, text ∈ t.texts) :
          scopedAborts p s cs = false := by
        induction cs with
        | nil => rfl
        | cons c rest ih =>
          obtain ⟨first, others⟩ := List.forall_mem_cons.mp known
          rw [scopedAborts, silent p c.2.texts first, ih others, ite_self]
      exact onward _ fun c mem text inside => Target.mem_texts_of_occurrences mem inside
  | not p ih => exact ih
  | and p q hp hq | or p q hp hq => rw [aborts, hp, hq, Bool.or_self]

theorem aborts_of_fits {plan : Plan} (fits : t.Fits s.context) : plan.aborts t s = false :=
  aborts_eq_false fun _ _ known => Pattern.aborts_of_fits fun text mem => fits text (known text mem)

theorem aborts_of_not_highlight {plan : Plan} (off : s.highlight = false) :
    plan.aborts t s = false := by
  apply aborts_eq_false
  intro p texts known
  rw [Pattern.aborts, off, Bool.false_and]

end Plan

end Dossier
