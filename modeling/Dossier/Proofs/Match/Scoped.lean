import Dossier.Proofs.Match.Leaf
import Dossier.Proofs.Match.Whole

/-!
The score of a term with a field. A field may name several values, and the first of them in which
the word is found answers alone, with its own score, though a later one may be the word itself. The
same word without a field has the score of the best.
-/

namespace Dossier

def IsFirst {α : Type} (P : α → Prop) (xs : List α) (x : α) : Prop :=
  ∃ before after, xs = before ++ x :: after ∧ P x ∧ ∀ y ∈ before, ¬P y

theorem exists_isFirst {α : Type} {P : α → Prop} {xs : List α} (found : ∃ x ∈ xs, P x) :
    ∃ x, IsFirst P xs x := by
  induction xs with
  | nil =>
    obtain ⟨x, mem, -⟩ := found
    cases mem
  | cons y rest ih =>
    by_cases here : P y
    · exact ⟨y, [], rest, rfl, here, fun _ mem => by cases mem⟩
    · have later : ∃ x ∈ rest, P x := by
        obtain ⟨x, mem, holds⟩ := found
        rcases List.mem_cons.mp mem with rfl | mem
        · exact absurd holds here
        · exact ⟨x, mem, holds⟩
      obtain ⟨x, before, after, rfl, holds, earlier⟩ := ih later
      refine ⟨x, y :: before, after, rfl, holds, ?_⟩
      intro z mem
      rcases List.mem_cons.mp mem with rfl | mem
      · exact here
      · exact earlier z mem

theorem IsFirst.find?_eq {α : Type} {P : α → Prop} [DecidablePred P] {xs : List α} {x : α}
    (first : IsFirst P xs x) : xs.find? (P ·) = some x := by
  obtain ⟨before, after, split, holds, earlier⟩ := first
  rw [List.find?_eq_some_iff_append]
  refine ⟨decide_eq_true holds, before, after, split, ?_⟩
  intro y mem
  simpa using earlier y mem

namespace Value

variable {w : String} {v : Value}

/-- The word is a part of a text in the value, case set aside. -/
def Holds (w : String) (v : Value) : Prop :=
  ∃ t ∈ v.texts, Text.fold w.toList <:+: Text.fold t.toList

def Equals (w : String) (v : Value) : Prop :=
  ∃ t ∈ v.texts, Text.fold t.toList = Text.fold w.toList

theorem Equals.holds (equal : v.Equals w) : v.Holds w := by
  obtain ⟨t, listed, same⟩ := equal
  exact ⟨t, listed, same ▸ List.infix_rfl⟩

end Value

namespace Pattern

variable {w : String} {v : Value} {highlight : Bool} {context : Nat}
  (filled : Text.fold w.toList ≠ [])

include filled

theorem isMatch_outcome_part_iff :
    ((part w).outcome highlight context v.texts).grade.isMatch = true ↔ v.Holds w := by
  rw [isMatch_outcome_iff]
  simp only [grade, isMatch_plainGrade_iff, Value.Holds, and_iff_right filled]

theorem grade_outcome_part_eq_whole_iff :
    ((part w).outcome highlight context v.texts).grade = .whole ↔ v.Equals w := by
  constructor
  · intro whole
    have matched : ((part w).outcome highlight context v.texts).grade.isMatch = true := by
      rw [whole]
      rfl
    obtain ⟨t, listed, scores⟩ := (score_outcome_greatest matched).1
    have same := scores.isMatch_and_score_eq.2
    rw [whole] at same
    have equal := (Grade.score_eq_one_iff _).mp same
    exact ⟨t, listed, (plainGrade_eq_whole_iff.mp equal).2⟩
  · rintro ⟨t, listed, same⟩
    have whole : (part w).grade t = .whole := plainGrade_eq_whole_iff.mpr ⟨filled, same⟩
    exact grade_outcome_of_whole listed whole highlight context

end Pattern

namespace Plan

variable {p : Pattern} {s : Setting} {cs : List (String × Value)} {c : String × Value}

/-- The first occurrence that matches answers for all. -/
theorem evaluateScoped_of_isFirst
    (first : IsFirst (fun c => (p.outcome s.highlight s.context c.2.texts).grade.isMatch = true)
      cs c) :
    evaluateScoped p s cs =
      ⟨true, (p.outcome s.highlight s.context c.2.texts).grade,
        [⟨c.1, (p.outcome s.highlight s.context c.2.texts).highlights⟩]⟩ := by
  obtain ⟨before, after, rfl, here, earlier⟩ := first
  induction before with
  | nil => rw [List.nil_append, evaluateScoped, if_pos here]
  | cons b before ih =>
    rw [List.cons_append, evaluateScoped, if_neg (earlier b List.mem_cons_self)]
    exact ih fun c mem => earlier c (List.mem_cons_of_mem b mem)

end Plan

structure Plan.AnsweredBy (w : String) (cs : List (String × Value)) (e : Evaluation)
    (c : String × Value) : Prop where
  /-- No value before it holds the word. -/
  first : IsFirst (fun c => c.2.Holds w) cs c
  matched : e.matched = true
  path : e.hits.map (·.path) = [c.1]
  attained : ∃ t ∈ c.2.texts, (Pattern.part w).Scores t e.score
  greatest : ∀ t ∈ c.2.texts, ∀ x, (Pattern.part w).Scores t x → x ≤ e.score
  best : e.score = 1.0 ↔ c.2.Equals w

namespace Query.Expr

section Word

variable {r : Record} {field w : String} (s : Setting) (filled : Text.fold w.toList ≠ [])
  (literal : ∀ c ∈ w.toList, isWildcard c = false)
  (equal : ∃ c ∈ r.profile.occurrences field, c.2.Equals w)

include filled literal equal

theorem unscoped_score_of_equal (only : s.fields = [field]) :
    let e := (Expr.term ⟨none, w, false⟩).evaluation (.record r) s
    e.matched = true ∧ e.score = 1.0 := by
  intro e
  obtain ⟨c, mem, equal⟩ := equal
  have whole : ((Pattern.part w).outcome s.highlight s.context c.2.texts).grade = .whole :=
    (Pattern.grade_outcome_part_eq_whole_iff filled).mpr equal
  have answers : e = Plan.evaluateUnscoped (.part w) s (r.profile.occurrences field) := by
    change Plan.evaluateUnscoped (.compile w false) s (s.fields.flatMap r.profile.occurrences) = _
    rw [Pattern.compile_of_literal literal, only, List.flatMap_singleton]
  obtain ⟨matched, graded⟩ := Plan.evaluateUnscoped_of_whole mem whole
  rw [answers]
  exact ⟨matched, (Grade.score_eq_one_iff _).mpr graded⟩

/-- With a field, the first value of the field that holds the word answers for all. The score is 1.0
just if the word is a text of that value. -/
theorem scoped_answered_by_first :
    ∃ c, Plan.AnsweredBy w (r.profile.occurrences field)
      ((Expr.term ⟨some field, w, false⟩).evaluation (.record r) s) c := by
  have held : ∃ c ∈ r.profile.occurrences field, c.2.Holds w := by
    obtain ⟨c, mem, equal⟩ := equal
    exact ⟨c, mem, equal.holds⟩
  obtain ⟨c, first⟩ := exists_isFirst held
  have holds : c.2.Holds w := by
    obtain ⟨_, _, _, holds, _⟩ := first
    exact holds
  have answers : (Expr.term ⟨some field, w, false⟩).evaluation (.record r) s =
      ⟨true, ((Pattern.part w).outcome s.highlight s.context c.2.texts).grade,
        [⟨c.1, ((Pattern.part w).outcome s.highlight s.context c.2.texts).highlights⟩]⟩ := by
    change Plan.evaluateScoped (.compile w false) s (r.profile.occurrences field) = _
    rw [Pattern.compile_of_literal literal]
    apply Plan.evaluateScoped_of_isFirst
    simpa only [Pattern.isMatch_outcome_part_iff filled] using first
  have matched : ((Pattern.part w).outcome s.highlight s.context c.2.texts).grade.isMatch = true :=
    (Pattern.isMatch_outcome_part_iff filled).mpr holds
  obtain ⟨attained, greatest⟩ := Pattern.score_outcome_greatest matched
  have best : ((Pattern.part w).outcome s.highlight s.context c.2.texts).grade.score = 1.0 ↔
      c.2.Equals w := by
    rw [Grade.score_eq_one_iff, Pattern.grade_outcome_part_eq_whole_iff filled]
  rw [answers]
  exact ⟨c, first, rfl, rfl, attained, greatest, best⟩

end Word

/-- The first of three values does not hold the word, and the second has it as one of its texts. -/
theorem scoped_answered_by_first_list :
    let r : Record := ⟨"people", "1", "profile",
      ⟨[("contact", .mapping [("status", .scalar (.text "lapsed"))]),
        ("core", .mapping [("status", .sequence [.scalar (.text "inactive"), .scalar .null,
          .scalar (.text "ACTIVE")])]),
        ("tags", .mapping [("status", .scalar (.text "active"))])], by decide⟩, none⟩
    let s : Setting := ⟨[], true, 50⟩
    let e := (Expr.term ⟨some "status", "active", false⟩).evaluation (.record r) s
    Text.fold "active".toList ≠ [] ∧ (∀ c ∈ "active".toList, isWildcard c = false) ∧
      (∃ c ∈ r.profile.occurrences "status", c.2.Equals "active") ∧
      (∃ c, Plan.AnsweredBy "active" (r.profile.occurrences "status") e c) ∧
      e = ⟨true, .whole, [⟨"core.status", ["in**active**", "**ACTIVE**"]⟩]⟩ := by
  intro r s e
  have filled : Text.fold "active".toList ≠ [] := by decide +kernel
  have noWildcard : "active".toList.all (fun c => !isWildcard c) = true := by decide +kernel
  have literal : ∀ c ∈ "active".toList, isWildcard c = false := by
    intro c hc
    simpa using List.all_eq_true.mp noWildcard c hc
  have occurrences : r.profile.occurrences "status" =
      [("contact.status", .scalar (.text "lapsed")),
        ("core.status", .sequence [.scalar (.text "inactive"), .scalar .null,
          .scalar (.text "ACTIVE")]), ("tags.status", .scalar (.text "active"))] := rfl
  have equal : ∃ c ∈ r.profile.occurrences "status", c.2.Equals "active" := by
    rw [occurrences]
    refine ⟨("tags.status", .scalar (.text "active")), by simp, "active", ?_, rfl⟩
    exact List.mem_singleton.mpr rfl
  exact ⟨filled, literal, equal, scoped_answered_by_first s filled literal equal, by decide +kernel⟩

/-- One section holds the word inside another, and a later one is the word itself. -/
theorem scoped_stops_at_inside :
    let r : Record := ⟨"people", "1", "profile",
      ⟨[("core", .mapping [("status", .scalar (.text "inactive"))]),
        ("tags", .mapping [("status", .scalar (.text "active"))])], by decide⟩, none⟩
    let s : Setting := ⟨["status"], true, 50⟩
    let e := (Expr.term ⟨some "status", "active", false⟩).evaluation (.record r) s
    (∃ c ∈ r.profile.occurrences "status", c.2.Equals "active") ∧
      e = ⟨true, .inside, [⟨"core.status", ["in**active**"]⟩]⟩ ∧ e.score = 0.7 ∧ e.score ≠ 1.0 ∧
      ((Expr.term ⟨none, "active", false⟩).evaluation (.record r) s).score = 1.0 := by
  intro r s e
  have evaluated : e = ⟨true, .inside, [⟨"core.status", ["in**active**"]⟩]⟩ := by decide +kernel
  have score : e.score = 0.7 := by
    rw [evaluated]
    rfl
  have occurrences : r.profile.occurrences "status" =
      [("core.status", .scalar (.text "inactive")), ("tags.status", .scalar (.text "active"))] :=
    rfl
  refine ⟨?_, evaluated, score, ?_, by decide +kernel⟩
  · rw [occurrences]
    refine ⟨("tags.status", .scalar (.text "active")), by simp, "active", ?_, rfl⟩
    exact List.mem_singleton.mpr rfl
  · rw [score]
    decide

end Query.Expr

end Dossier
