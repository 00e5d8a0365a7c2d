import Dossier.Proofs.Match.Leaf
import Dossier.Proofs.Match.Meaning
import Dossier.Proofs.Query.Plain

/-!
All words of a text at once. The words become a chain of conjunctions, which matches where each of
them does, has the best of their grades and reports the hits of all. On a leaf every word is tried
on the one text that the leaf has, and null has none.
-/

namespace Dossier

namespace Evaluation

variable {v : Evaluation} {vs : List Evaluation}

theorem matched_foldl_and :
    (vs.foldl .and v).matched = true ↔ ∀ u ∈ v :: vs, u.matched = true := by
  induction vs generalizing v with
  | nil => simp
  | cons u rest ih =>
    have both : (v.and u).matched = true ↔ v.matched = true ∧ u.matched = true :=
      Bool.and_eq_true_iff
    rw [List.foldl_cons, ih, List.forall_mem_cons, List.forall_mem_cons, List.forall_mem_cons,
      both, and_assoc]

/-- Where all match, the best of their grades and the hits of all are what the chain has. -/
theorem foldl_and_of_matched (all : ∀ u ∈ v :: vs, u.matched = true) :
    vs.foldl .and v =
      ⟨true, Grade.best ((v :: vs).map (·.grade)), (v :: vs).flatMap (·.hits)⟩ := by
  induction vs generalizing v with
  | nil =>
    have matched : v.matched = true := all v List.mem_cons_self
    rw [List.foldl_nil, ← matched]
    simp
  | cons u rest ih =>
    obtain ⟨first, second, others⟩ : v.matched = true ∧ u.matched = true ∧
        ∀ w ∈ rest, w.matched = true := by simpa using all
    -- What the first two give together stands for both in the rest of the chain.
    have joined : v.and u = ⟨true, v.grade.max u.grade, v.hits ++ u.hits⟩ := by
      rw [and, first, second]
      rfl
    rw [List.foldl_cons, joined, ih (List.forall_mem_cons.mpr ⟨rfl, others⟩)]
    simp [Grade.max_assoc]

end Evaluation

theorem Plan.evaluateUnscoped_singleton (p : Pattern) (s : Setting) (c : String × Value) :
    evaluateUnscoped p s [c] = evaluateScoped p s [c] := by
  by_cases matched : (p.outcome s.highlight s.context c.2.texts).grade.isMatch = true
  · have found : matching p s [c] = [(c.1, p.outcome s.highlight s.context c.2.texts)] :=
      List.filter_cons_of_pos matched
    rw [evaluateUnscoped, found, evaluateScoped, if_pos matched]
    exact congrArg (Evaluation.mk true · _) (Grade.miss_max _)
  · have found : matching p s [c] = [] := List.filter_cons_of_neg matched
    rw [evaluateUnscoped, found, evaluateScoped, if_neg matched]
    rfl

namespace Query

def wordPattern (w : List Char) : Pattern := .compile (String.ofList w) false

def wordOn (path : String) (leaf : Scalar) (s : Setting) (w : List Char) : Evaluation :=
  (Expr.term (Term.ofWord w)).evaluation (.leaf path leaf) s

section

variable {path : String} {leaf : Scalar} {s : Setting} {w : List Char} {t : String}

theorem wordOn_eq : wordOn path leaf s w =
    Plan.evaluateScoped (wordPattern w) s [(path, .scalar leaf)] :=
  Plan.evaluateUnscoped_singleton _ _ _

theorem wordOn_of_null (null : leaf.text? = none) : wordOn path leaf s w = .miss := by
  have texts : (Value.scalar leaf).texts = [] := by rw [Value.texts, null, Option.toList_none]
  rw [wordOn_eq, Plan.evaluateScoped, texts]
  rfl

theorem wordOn_of_text (text : leaf.text? = some t) : wordOn path leaf s w =
    if ((wordPattern w).grade t).isMatch then
      ⟨true, (wordPattern w).grade t,
        [⟨path, ((wordPattern w).alone s.highlight s.context t).highlights⟩]⟩
    else .miss := by
  have texts : (Value.scalar leaf).texts = (Value.scalar (.text t)).texts := by
    rw [Value.texts, text]
    rfl
  have grade : ((wordPattern w).outcome s.highlight s.context (Value.scalar (.text t)).texts).grade =
      (wordPattern w).grade t := Pattern.grade_alone
  rw [wordOn_eq, Plan.evaluateScoped, texts]
  dsimp only
  rw [grade]
  rfl

theorem matched_wordOn_iff : (wordOn path leaf s w).matched = true ↔
    ∃ t, leaf.text? = some t ∧ ((wordPattern w).grade t).isMatch = true := by
  cases text : leaf.text? with
  | none => simp [wordOn_of_null text, Evaluation.miss]
  | some t =>
    rw [wordOn_of_text text]
    by_cases matched : ((wordPattern w).grade t).isMatch = true
    · simp [matched]
    · simp [matched, Evaluation.miss]

end

theorem Expr.evaluation_foldl_and (t : Target) (s : Setting) (e : Expr) (es : List Expr) :
    (es.foldl .and e).evaluation t s =
      (es.map (·.evaluation t s)).foldl .and (e.evaluation t s) := by
  induction es generalizing e with
  | nil => rfl
  | cons f rest ih => rw [List.foldl_cons, ih, evaluation_and, List.map_cons, List.foldl_cons]

theorem exists_freeText {text : String} (filled : Text.words text.toList ≠ []) :
    ∃ expr, freeText text = some expr := by
  unfold freeText
  cases words : Text.words text.toList with
  | nil => exact absurd words filled
  | cons w ws => exact ⟨_, rfl⟩

section

variable {text path : String} {expr : Expr} {leaf : Scalar} {s : Setting} {t : String}
  (asked : freeText text = some expr)

include asked

theorem exists_words_freeText : ∃ w ws, Text.words text.toList = w :: ws ∧
    expr = (ws.map fun w => Expr.term (Term.ofWord w)).foldl .and (.term (Term.ofWord w)) := by
  unfold freeText at asked
  cases words : Text.words text.toList with
  | nil =>
    rw [words] at asked
    cases asked
  | cons w ws =>
    rw [words] at asked
    cases asked
    exact ⟨w, ws, rfl, rfl⟩

theorem exists_evaluation_freeText : ∃ w ws, Text.words text.toList = w :: ws ∧
    ∀ (path : String) (leaf : Scalar) (s : Setting), expr.evaluation (.leaf path leaf) s =
      (ws.map (wordOn path leaf s)).foldl .and (wordOn path leaf s w) := by
  obtain ⟨w, ws, words, rfl⟩ := exists_words_freeText asked
  refine ⟨w, ws, words, ?_⟩
  intro path leaf s
  rw [Expr.evaluation_foldl_and, List.map_map]
  rfl

theorem matched_freeText_iff : (expr.evaluation (.leaf path leaf) s).matched = true ↔
    ∃ t, leaf.text? = some t ∧
      ∀ w ∈ Text.words text.toList, ((wordPattern w).grade t).isMatch = true := by
  obtain ⟨w, ws, words, chain⟩ := exists_evaluation_freeText asked
  rw [chain, words, Evaluation.matched_foldl_and, ← List.map_cons]
  simp only [List.forall_mem_map, matched_wordOn_iff]
  constructor
  · intro all
    obtain ⟨t, text, -⟩ := all w List.mem_cons_self
    refine ⟨t, text, fun v mem => ?_⟩
    obtain ⟨t', text', matched⟩ := all v mem
    rw [text, Option.some.injEq] at text'
    exact text' ▸ matched
  · rintro ⟨t, text, all⟩ v mem
    exact ⟨t, text, all v mem⟩

/-- Each word reports the text at the path of the leaf, and the best of them gives the grade. -/
theorem evaluation_freeText_of_matched (held : leaf.text? = some t)
    (all : ∀ w ∈ Text.words text.toList, ((wordPattern w).grade t).isMatch = true) :
    expr.evaluation (.leaf path leaf) s =
      ⟨true, Grade.best ((Text.words text.toList).map fun w => (wordPattern w).grade t),
        (Text.words text.toList).map fun w =>
          ⟨path, ((wordPattern w).alone s.highlight s.context t).highlights⟩⟩ := by
  obtain ⟨w, ws, words, chain⟩ := exists_evaluation_freeText asked
  rw [words] at all ⊢
  have each : (w :: ws).map (wordOn path leaf s) = (w :: ws).map fun w =>
      ⟨true, (wordPattern w).grade t,
        [⟨path, ((wordPattern w).alone s.highlight s.context t).highlights⟩]⟩ := by
    apply List.map_congr_left
    intro w mem
    rw [wordOn_of_text held, if_pos (all w mem)]
  have matched : ∀ u ∈ (w :: ws).map (wordOn path leaf s), u.matched = true := by
    intro u mem
    rw [each] at mem
    obtain ⟨_, -, rfl⟩ := List.mem_map.mp mem
    rfl
  rw [chain, Evaluation.foldl_and_of_matched matched, ← List.map_cons, each, List.map_map,
    List.flatMap_map]
  exact congrArg (Evaluation.mk true _) List.map_eq_flatMap.symm

end

end Query

end Dossier
