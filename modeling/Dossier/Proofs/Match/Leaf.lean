import Dossier.Proofs.Match.Glob
import Dossier.Proofs.Match.Highlight
import Dossier.Proofs.Match.Standing

/-!
The outcome of a value, read off its leaves. Every text in a value is matched by itself: the value
matches if one of them does, has the score of the best of them, and shows a highlight for each.
-/

namespace Dossier

namespace Pattern

/-- The score of a text that matches. A plain word counts by where it stands in the text, case set
aside; a phrase, which is the whole text, and a pattern with wildcards have one score each. -/
inductive Scores : Pattern → String → Float → Prop where
  | equal {w t : String} : Text.fold w.toList ≠ [] → Text.fold t.toList = Text.fold w.toList →
      Scores (.part w) t 1.0
  | start {w t : String} : Text.fold w.toList ≠ [] → Text.fold t.toList ≠ Text.fold w.toList →
      Text.fold w.toList <+: Text.fold t.toList → Scores (.part w) t 0.9
  | elsewhere {w t : String} : Text.fold w.toList ≠ [] →
      ¬Text.fold w.toList <+: Text.fold t.toList →
      Text.fold w.toList <:+: Text.fold t.toList → Scores (.part w) t 0.7
  | phrase {w t : String} : Text.fold w.toList ≠ [] → Text.fold t.toList = Text.fold w.toList →
      Scores (.whole w) t 1.0
  | wild {w t : String} : Glob.Cuts w.toList t.toList → Scores (.glob w) t 0.8

variable {p : Pattern} {t : String} {x : Float}

theorem Scores.isMatch_and_score_eq (scores : Scores p t x) :
    (p.grade t).isMatch = true ∧ (p.grade t).score = x := by
  cases scores with
  | equal filled same =>
    rw [grade, Stands.plainGrade_eq (.whole filled same)]
    exact ⟨rfl, rfl⟩
  | start filled other begins =>
    rw [grade, Stands.plainGrade_eq (.start filled other begins)]
    exact ⟨rfl, rfl⟩
  | elsewhere filled not_start part =>
    rw [grade, Stands.plainGrade_eq (.inside filled not_start part)]
    exact ⟨rfl, rfl⟩
  | phrase filled same =>
    rw [grade_phrase_eq, if_pos ⟨filled, same⟩]
    exact ⟨rfl, rfl⟩
  | wild cuts =>
    rw [grade, if_pos (Glob.accepts_iff_cuts.mpr cuts)]
    exact ⟨rfl, rfl⟩

theorem scores_of_isMatch (matched : (p.grade t).isMatch = true) :
    Scores p t (p.grade t).score := by
  cases p with
  | whole w =>
    rw [grade_phrase_eq] at matched ⊢
    split at matched
    · rename_i same
      rw [if_pos same]
      exact .phrase same.1 same.2
    · cases matched
  | part w =>
    rw [grade] at matched ⊢
    have stands := stands_plainGrade (Text.fold w.toList) (Text.fold t.toList)
    generalize plainGrade (Text.fold w.toList) (Text.fold t.toList) = g at matched stands ⊢
    cases stands with
    | whole filled same => exact .equal filled same
    | start filled other begins => exact .start filled other begins
    | inside filled not_start part => exact .elsewhere filled not_start part
    | nowhere _ => cases matched
  | glob w =>
    have cuts := isMatch_glob_iff.mp matched
    rw [grade, if_pos (Glob.accepts_iff_cuts.mpr cuts)]
    exact .wild cuts

theorem scores_iff : Scores p t x ↔ (p.grade t).isMatch = true ∧ (p.grade t).score = x :=
  ⟨Scores.isMatch_and_score_eq, fun ⟨matched, same⟩ => same ▸ scores_of_isMatch matched⟩

theorem isMatch_grade_iff : (p.grade t).isMatch = true ↔ ∃ x, Scores p t x := by
  simp [scores_iff]

variable {highlight : Bool} {context : Nat}

/-- The outcome of a text by itself, as that of a value with one leaf. -/
def alone (p : Pattern) (highlight : Bool) (context : Nat) (t : String) : Outcome :=
  p.outcome highlight context (Value.scalar (.text t)).texts

theorem grade_alone : (p.alone highlight context t).grade = p.grade t := by
  have one : (Value.scalar (.text t)).texts = [t] := rfl
  rw [alone, outcome_eq, one]
  by_cases matched : (p.grade t).isMatch = true
  · have picked : p.picks [t] = [t] := List.filter_cons_of_pos matched
    rw [picked]
    exact Grade.max_miss _
  · have none : p.picks [t] = [] := List.filter_cons_of_neg matched
    rw [none, Grade.eq_miss_of_not_isMatch matched]
    rfl

/-- From what is gathered so far, the texts that match add their grades and their highlights. -/
theorem foldl_absorb (texts : List String) (g : Grade) (shown : List String) :
    texts.foldl
      (fun o t =>
        if (p.grade t).isMatch then
          o.absorb (p.grade t).score (if highlight then p.highlight? context t else none)
        else o)
      (⟨g.isMatch, g.score, shown⟩ : Gathered) =
    ⟨(g.max (p.outcome highlight context texts).grade).isMatch,
      (g.max (p.outcome highlight context texts).grade).score,
      shown ++ (p.outcome highlight context texts).highlights⟩ := by
  simp only [outcome_eq]
  induction texts generalizing g shown with
  | nil => cases highlight <;> simp [picks]
  | cons t rest ih =>
    rw [List.foldl_cons]
    by_cases matched : (p.grade t).isMatch = true
    · have picked : p.picks (t :: rest) = t :: p.picks rest := List.filter_cons_of_pos matched
      have absorbed (highlight? : Option String) :
          (⟨g.isMatch, g.score, shown⟩ : Gathered).absorb (p.grade t).score highlight? =
            ⟨(g.max (p.grade t)).isMatch, (g.max (p.grade t)).score,
              shown ++ highlight?.toList⟩ := by
        rw [Gathered.absorb, Grade.greater_score, Grade.isMatch_max, matched, Bool.or_true]
      rw [if_pos matched, absorbed, ih, picked, List.map_cons, Grade.best_cons, Grade.max_assoc]
      cases highlight with
      | false => simp
      | true => cases found : p.highlight? context t <;> simp [found]
    · have passed : p.picks (t :: rest) = p.picks rest := List.filter_cons_of_neg matched
      rw [if_neg matched, ih, passed]

/-- Gathered text by text, the outcome is the same: it is noted as a match if its grade is one. -/
theorem gather_eq (texts : List String) :
    p.gather highlight context texts =
      ⟨(p.outcome highlight context texts).grade.isMatch,
        (p.outcome highlight context texts).grade.score,
        (p.outcome highlight context texts).highlights⟩ := by
  refine (foldl_absorb texts .miss []).trans ?_
  rw [Grade.miss_max, List.nil_append]

/-- The outcome is what the leaves give by themselves. -/
structure ByLeaves (p : Pattern) (highlight : Bool) (context : Nat) (leaves : List String)
    (o : Outcome) : Prop where
  /-- A leaf matches by itself if it has a score. -/
  alone : ∀ t, (p.alone highlight context t).grade.isMatch = true ↔ ∃ x, p.Scores t x
  matched : o.grade.isMatch = true ↔
    ∃ t ∈ leaves, (p.alone highlight context t).grade.isMatch = true
  /-- A match has the greatest of the scores of the leaves. -/
  greatest : o.grade.isMatch = true →
    (∃ t ∈ leaves, p.Scores t o.grade.score) ∧
      ∀ t ∈ leaves, ∀ x, p.Scores t x → x ≤ o.grade.score
  unmatched : ¬o.grade.isMatch = true → o.grade.score = 0.0
  positive : o.grade.isMatch = true ↔ 0.0 < o.grade.score
  /-- Each leaf that matches has its highlight, in order. -/
  shown : highlight = true → o.highlights.map some =
    (leaves.filter fun t => (p.alone highlight context t).grade.isMatch).map
      (p.highlight? context)
  hidden : highlight = false → o.highlights = []

theorem isMatch_outcome_iff {texts : List String} :
    (p.outcome highlight context texts).grade.isMatch = true ↔
      ∃ t ∈ texts, (p.grade t).isMatch = true := by
  rw [outcome_eq, Grade.isMatch_best_iff]
  constructor
  · rintro ⟨_, mem, matched⟩
    obtain ⟨t, picked, rfl⟩ := List.mem_map.mp mem
    exact ⟨t, (mem_picks_iff.mp picked).1, matched⟩
  · rintro ⟨t, listed, matched⟩
    exact ⟨p.grade t, List.mem_map_of_mem (mem_picks_iff.mpr ⟨listed, matched⟩), matched⟩

theorem score_outcome_greatest {texts : List String}
    (matched : (p.outcome highlight context texts).grade.isMatch = true) :
    (∃ t ∈ texts, p.Scores t (p.outcome highlight context texts).grade.score) ∧
      ∀ t ∈ texts, ∀ x, p.Scores t x →
        x ≤ (p.outcome highlight context texts).grade.score := by
  have filled : (p.picks texts).map p.grade ≠ [] := by
    rw [ne_eq, List.map_eq_nil_iff]
    exact picks_ne_nil_of_isMatch matched
  rw [outcome_eq]
  constructor
  · obtain ⟨t, picked, same⟩ := List.mem_map.mp (Grade.best_mem filled)
    obtain ⟨listed, picked⟩ := mem_picks_iff.mp picked
    exact ⟨t, listed, same ▸ scores_of_isMatch picked⟩
  · intro t listed x scores
    obtain ⟨picked, rfl⟩ := scores.isMatch_and_score_eq
    rw [Grade.score_le_iff]
    exact Grade.rank_le_best (List.mem_map_of_mem (mem_picks_iff.mpr ⟨listed, picked⟩))

/-- A value is matched leaf by leaf. -/
theorem outcome_byLeaves (p : Pattern) (highlight : Bool) (context : Nat) (v : Value)
    (fits : ∀ t ∈ v.texts, Snippet.Fits context t.toList) :
    ByLeaves p highlight context v.texts (p.outcome highlight context v.texts) := by
  constructor
  case alone =>
    intro t
    rw [grade_alone, isMatch_grade_iff]
  case matched =>
    simp only [grade_alone]
    exact isMatch_outcome_iff
  case greatest => exact score_outcome_greatest
  case unmatched =>
    intro missed
    rw [Grade.eq_miss_of_not_isMatch missed]
    rfl
  case positive => exact Grade.isMatch_iff_score_pos
  case shown =>
    rintro rfl
    simp only [grade_alone]
    exact highlights_outcome fits
  case hidden =>
    rintro rfl
    rw [outcome_eq]
    rfl

/-- A mapping with a sequence and with nothing at one of its keys. -/
theorem outcome_byLeaves_nested :
    let v : Value := .mapping [("aliases", .sequence [.scalar (.text "Malice"), .scalar .null,
      .scalar (.text "ALICE in Wonderland")]), ("known", .scalar .null),
      ("name", .mapping [("last", .scalar (.text "Liddell"))])]
    let p : Pattern := .part "alice"
    (∀ t ∈ v.texts, Snippet.Fits 3 t.toList) ∧
      ByLeaves p true 3 v.texts (p.outcome true 3 v.texts) ∧
      p.outcome true 3 v.texts = ⟨.start, ["M**alice**", "**ALICE** in..."]⟩ := by
  intro v p
  have fits : ∀ t ∈ v.texts, Snippet.Fits 3 t.toList := by decide +kernel
  exact ⟨fits, outcome_byLeaves p true 3 v fits, by decide +kernel⟩

end Pattern

end Dossier
