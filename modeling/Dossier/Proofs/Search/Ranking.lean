import Dossier.Proofs.Match.Grade
import Mathlib.Data.List.Basic

/-!
What it is to rank results: nothing is lost or added, scores descend, and results of one score keep
their order. A list has one ranking, and sorting finds it.
-/

namespace Dossier

namespace SearchResult

def place (r : SearchResult) : Int := orderKey r.score

end SearchResult

structure IsRanking (found ranked : List SearchResult) : Prop where
  perm : ranked.Perm found
  descending : ranked.Pairwise fun a b => b.place ≤ a.place
  stable : ∀ k, ranked.filter (·.place = k) = found.filter (·.place = k)

theorem isRanking_ranked (results : List SearchResult) :
    IsRanking results (SearchResult.ranked results) := by
  have trans (a b c : SearchResult) (hab : decide (b.place ≤ a.place) = true)
      (hbc : decide (c.place ≤ b.place) = true) : decide (c.place ≤ a.place) = true := by
    simp only [decide_eq_true_eq] at *
    omega
  have total (a b : SearchResult) :
      (decide (b.place ≤ a.place) || decide (a.place ≤ b.place)) = true := by
    simp only [Bool.or_eq_true, decide_eq_true_eq]
    omega
  have perm : (SearchResult.ranked results).Perm results := List.mergeSort_perm _ _
  constructor
  · exact perm
  · have := List.pairwise_mergeSort trans total results
    exact this.imp fun h => by simpa using h
  · intro k
    -- Equal scores are in order in the list that is sorted, so that sorting keeps them so.
    have sorted : (results.filter (·.place = k)).Pairwise
        fun a b => decide (b.place ≤ a.place) = true := by
      refine List.pairwise_of_forall_mem_list fun a ha b hb => ?_
      have ha := (List.mem_filter.mp ha).2
      have hb := (List.mem_filter.mp hb).2
      simp only [decide_eq_true_eq] at *
      omega
    have kept : (results.filter (·.place = k)).Sublist (SearchResult.ranked results) :=
      List.sublist_mergeSort trans total sorted List.filter_sublist
    have kept := kept.filter (·.place = k)
    rw [List.filter_filter] at kept
    simp only [Bool.and_self] at kept
    exact (kept.eq_of_length (perm.symm.filter _).length_eq).symm

/-- Two descending lists that agree on each score are the same. -/
theorem eq_of_descending {xs ys : List SearchResult}
    (hx : xs.Pairwise fun a b => b.place ≤ a.place) (hy : ys.Pairwise fun a b => b.place ≤ a.place)
    (same : ∀ k, xs.filter (·.place = k) = ys.filter (·.place = k)) : xs = ys := by
  have mem {as bs : List SearchResult} (same : ∀ k, as.filter (·.place = k) = bs.filter (·.place = k))
      {r : SearchResult} (hr : r ∈ as) : r ∈ bs := by
    have : r ∈ as.filter (·.place = r.place) := List.mem_filter.mpr ⟨hr, by simp⟩
    rw [same] at this
    exact (List.mem_filter.mp this).1
  have symm := fun k => (same k).symm
  induction xs generalizing ys with
  | nil =>
    cases ys with
    | nil => rfl
    | cons y ys => cases mem symm List.mem_cons_self
  | cons x xs ih =>
    cases ys with
    | nil => cases mem same List.mem_cons_self
    | cons y ys =>
      obtain ⟨belowX, tailX⟩ := List.pairwise_cons.mp hx
      obtain ⟨belowY, tailY⟩ := List.pairwise_cons.mp hy
      have leX : y.place ≤ x.place := by
        rcases List.mem_cons.mp (mem symm List.mem_cons_self) with rfl | h
        · exact Int.le_refl _
        · exact belowX y h
      have leY : x.place ≤ y.place := by
        rcases List.mem_cons.mp (mem same List.mem_cons_self) with rfl | h
        · exact Int.le_refl _
        · exact belowY x h
      -- The heads have one score, and so they begin the same list of results of that score.
      have equal : y.place = x.place := Int.le_antisymm leX leY
      have heads := same x.place
      rw [List.filter_cons_of_pos (by simp), List.filter_cons_of_pos (by simp [equal])] at heads
      obtain rfl := (List.cons.inj heads).1
      have tails : ∀ k, xs.filter (·.place = k) = ys.filter (·.place = k) := by
        intro k
        have := same k
        rw [List.filter_cons, List.filter_cons] at this
        split at this
        · exact (List.cons.inj this).2
        · exact this
      rw [ih tailX tailY tails fun k => (tails k).symm]

theorem IsRanking.unique {found xs ys : List SearchResult} (hx : IsRanking found xs)
    (hy : IsRanking found ys) : xs = ys :=
  eq_of_descending hx.descending hy.descending fun k => (hx.stable k).trans (hy.stable k).symm

theorem IsRanking.descending_score {found ranked : List SearchResult} (h : IsRanking found ranked)
    (graded : ∀ r ∈ found, ∃ g : Grade, r.score = g.score) :
    ranked.Pairwise fun a b => b.score ≤ a.score := by
  refine h.descending.imp_of_mem fun {a b} ha hb le => ?_
  obtain ⟨g, hg⟩ := graded a (h.perm.mem_iff.mp ha)
  obtain ⟨k, hk⟩ := graded b (h.perm.mem_iff.mp hb)
  rw [SearchResult.place, SearchResult.place, hg, hk, Grade.orderKey_score_le_iff] at le
  rw [hg, hk, Grade.score_le_iff]
  exact le

/-- To rank some of the results is to keep them in the ranking of all. -/
theorem IsRanking.filter {found ranked : List SearchResult} (h : IsRanking found ranked)
    (keep : SearchResult → Bool) : IsRanking (found.filter keep) (ranked.filter keep) where
  perm := h.perm.filter keep
  descending := h.descending.filter keep
  stable k := by
    rw [List.filter_comm, h.stable k, List.filter_comm]

theorem ranked_filter (results : List SearchResult) (keep : SearchResult → Bool) :
    SearchResult.ranked (results.filter keep) = (SearchResult.ranked results).filter keep :=
  (isRanking_ranked _).unique ((isRanking_ranked results).filter keep)

end Dossier
