import Dossier.Match.Grade
import Dossier.Search.Result

/-!
Grades as a linear order. The best of a list of grades is its maximum, and the scores of grades are
in the same order as the grades, both as doubles and by their places in the total order of doubles.
-/

namespace Dossier.Grade

@[simp] theorem max_miss (g : Grade) : g.max .miss = g := by
  cases g <;> rfl

@[simp] theorem miss_max (g : Grade) : Grade.miss.max g = g := by
  cases g <;> rfl

theorem max_assoc (g h k : Grade) : (g.max h).max k = g.max (h.max k) := by
  cases g <;> cases h <;> cases k <;> rfl

theorem eq_of_rank_eq {g h : Grade} (same : g.rank = h.rank) : g = h := by
  cases g <;> cases h <;> first | rfl | exact absurd same (by decide)

theorem rank_max (g h : Grade) : (g.max h).rank = Nat.max g.rank h.rank := by
  cases g <;> cases h <;> rfl

theorem rank_max_le_rank_max {g g' h h' : Grade} (left : g.rank ≤ g'.rank)
    (right : h.rank ≤ h'.rank) : (g.max h).rank ≤ (g'.max h').rank := by
  rw [rank_max, rank_max]
  exact Nat.max_le.mpr ⟨Nat.le_trans left (Nat.le_max_left _ _),
    Nat.le_trans right (Nat.le_max_right _ _)⟩

theorem max_eq_or (g h : Grade) : g.max h = g ∨ g.max h = h := by
  unfold max
  split
  · exact .inr rfl
  · exact .inl rfl

theorem eq_miss_of_not_isMatch {g : Grade} (missed : ¬g.isMatch = true) : g = .miss := by
  cases g <;> first | rfl | exact absurd rfl missed

def best (gs : List Grade) : Grade := gs.foldr Grade.max .miss

@[simp] theorem best_nil : best [] = .miss := rfl

@[simp] theorem best_cons (g : Grade) (gs : List Grade) : best (g :: gs) = g.max (best gs) := rfl

@[simp] theorem best_append (gs hs : List Grade) :
    best (gs ++ hs) = (best gs).max (best hs) := by
  induction gs with
  | nil => simp
  | cons g rest ih => simp [ih, max_assoc]

theorem rank_le_best {g : Grade} {gs : List Grade} (h : g ∈ gs) : g.rank ≤ (best gs).rank := by
  induction gs with
  | nil => cases h
  | cons k rest ih =>
    rw [best_cons, rank_max]
    rcases List.mem_cons.mp h with rfl | h
    · exact Nat.le_max_left _ _
    · exact Nat.le_trans (ih h) (Nat.le_max_right _ _)

theorem best_mem {gs : List Grade} (ne : gs ≠ []) : best gs ∈ gs := by
  induction gs with
  | nil => exact absurd rfl ne
  | cons g rest ih =>
    rw [best_cons]
    rcases max_eq_or g (best rest) with eq | eq
    · rw [eq]
      exact List.mem_cons_self
    · rw [eq]
      cases rest with
      | nil => cases g <;> simp_all
      | cons k rest => exact List.mem_cons_of_mem _ (ih (List.cons_ne_nil k rest))

theorem rank_best_le {gs hs : List Grade} (sub : gs ⊆ hs) : (best gs).rank ≤ (best hs).rank := by
  by_cases none : gs = []
  · rw [none]
    exact Nat.zero_le _
  · exact rank_le_best (sub (best_mem none))

theorem best_eq_whole {gs : List Grade} (h : Grade.whole ∈ gs) : best gs = .whole := by
  have top : Grade.whole.rank ≤ (best gs).rank := rank_le_best h
  cases eq : best gs <;> rw [eq] at top <;> first | rfl | exact absurd top (by decide)

theorem isMatch_iff_rank_pos {g : Grade} : g.isMatch = true ↔ 0 < g.rank := by
  cases g <;> decide

theorem isMatch_best_iff {gs : List Grade} :
    (best gs).isMatch = true ↔ ∃ g ∈ gs, g.isMatch = true := by
  constructor
  · intro matched
    have filled : gs ≠ [] := by
      rintro rfl
      cases matched
    exact ⟨best gs, best_mem filled, matched⟩
  · rintro ⟨g, mem, matched⟩
    rw [isMatch_iff_rank_pos] at matched ⊢
    exact Nat.lt_of_lt_of_le matched (rank_le_best mem)

theorem foldl_max {α : Type} (f : α → Grade) (xs : List α) (g : Grade) :
    xs.foldl (fun g x => g.max (f x)) g = g.max (best (xs.map f)) := by
  induction xs generalizing g with
  | nil => exact (max_miss g).symm
  | cons x rest ih => rw [List.foldl_cons, ih, max_assoc, List.map_cons, best_cons]

theorem score_le_iff (g h : Grade) : g.score ≤ h.score ↔ g.rank ≤ h.rank := by
  cases g <;> cases h <;> decide

theorem orderKey_score_le_iff (g h : Grade) :
    orderKey g.score ≤ orderKey h.score ↔ g.rank ≤ h.rank := by
  cases g <;> cases h <;> decide

theorem score_eq_one_iff (g : Grade) : g.score = 1.0 ↔ g = .whole := by
  cases g <;> decide

theorem isMatch_iff_score_pos {g : Grade} : g.isMatch = true ↔ 0.0 < g.score := by
  cases g <;> decide

theorem greater_score (g h : Grade) : Decimal.greater g.score h.score = (g.max h).score := by
  cases g <;> cases h <;> decide

theorem isMatch_max (g h : Grade) : (g.max h).isMatch = (g.isMatch || h.isMatch) := by
  cases g <;> cases h <;> rfl

theorem score_mem (g : Grade) : g.score ∈ [0.0, 0.7, 0.8, 0.9, 1.0] := by
  cases g <;> simp [score]

theorem score_isNaN (g : Grade) : g.score.isNaN = false := by
  cases g <;> decide

end Dossier.Grade
