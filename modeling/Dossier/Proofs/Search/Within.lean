import Dossier.Proofs.Search.Listing
import Dossier.Proofs.Search.Ranking

/-!
Searching within a record. Every result stands for a leaf of the record that is asked for.
-/

namespace Dossier.Engine

def leafEvaluation (e : Engine) (expr : Query.Expr) (leaf : String × Scalar) : Evaluation :=
  expr.evaluation (.leaf leaf.1 leaf.2) ⟨[], true, e.context⟩

def leafResults (e : Engine) (expr : Query.Expr) (r : Record) : List SearchResult :=
  r.profile.leaves.filterMap fun leaf =>
    if (e.leafEvaluation expr leaf).matched then some (e.resultOf r (e.leafEvaluation expr leaf))
    else none

variable {e : Engine} {s : Source} {result : SearchResult} {collection id text : String}
  {expr : Query.Expr} {r : Record}

theorem exists_leaf_of_mem_leafResults (mem : result ∈ e.leafResults expr r) :
    ∃ leaf ∈ r.profile.leaves, result = e.resultOf r (e.leafEvaluation expr leaf) := by
  obtain ⟨leaf, listed, made⟩ := List.mem_filterMap.mp mem
  rw [Option.ite_none_right_eq_some, Option.some.injEq] at made
  exact ⟨leaf, listed, made.2.symm⟩

theorem searchWithin_of_record (asked : Query.freeText (normalizeText text) = some expr)
    (found : s.record? collection id = .ok (some r)) :
    e.searchWithin s collection id text = .ok (SearchResult.ranked (e.leafResults expr r)) := by
  rw [searchWithin, asked]
  dsimp only
  rw [found]
  rfl

theorem searchWithin_of_absent (absent : s.record? collection id = .ok none) :
    e.searchWithin s collection id text = .ok [] := by
  unfold searchWithin
  split
  · rfl
  · rw [absent]

theorem origin_of_mem_searchWithin {results : List SearchResult}
    (answered : e.searchWithin s collection id text = .ok results) (mem : result ∈ results) :
    ∃ expr r, Query.freeText (normalizeText text) = some expr ∧
      s.record? collection id = .ok (some r) ∧
      ∃ leaf ∈ r.profile.leaves, result = e.resultOf r (e.leafEvaluation expr leaf) := by
  unfold searchWithin at answered
  split at answered
  · cases answered
    cases mem
  · rename_i expr asked
    split at answered
    · cases answered
    · cases answered
      cases mem
    · rename_i r found
      cases answered
      have listed : result ∈ e.leafResults expr r := (isRanking_ranked _).perm.mem_iff.mp mem
      exact ⟨expr, r, asked, found, exists_leaf_of_mem_leafResults listed⟩

end Dossier.Engine
