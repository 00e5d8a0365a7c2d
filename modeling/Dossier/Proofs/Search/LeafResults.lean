import Dossier.Proofs.Match.Conjunction
import Dossier.Proofs.Match.Scoped
import Dossier.Proofs.Search.Abort

/-!
What a search within a record answers. The first record with the id is the one that is meant, and
each of its leaves that all words of the text match has one result, which names the path of the leaf
and has the best score of a word. The results are ranked, the order of the leaves decides among
equal scores.
-/

namespace Dossier

namespace Query

/-- All words match the text of the leaf, with these scores; null has no text to match. -/
def ScoresOn (words : List (List Char)) (leaf : Scalar) (scores : List Float) : Prop :=
  ∃ t, leaf.text? = some t ∧ List.Forall₂ (fun w x => (wordPattern w).Scores t x) words scores

variable {words : List (List Char)} {leaf : Scalar} {scores : List Float} {text : String}
  {expr : Expr}

theorem scoresOn_iff : ScoresOn words leaf scores ↔ ∃ t, leaf.text? = some t ∧
    (∀ w ∈ words, ((wordPattern w).grade t).isMatch = true) ∧
      scores = words.map fun w => ((wordPattern w).grade t).score := by
  have each (t : String) : List.Forall₂ (fun w x => (wordPattern w).Scores t x) words scores ↔
      (∀ w ∈ words, ((wordPattern w).grade t).isMatch = true) ∧
        scores = words.map fun w => ((wordPattern w).grade t).score := by
    simp only [Pattern.scores_iff]
    rw [List.forall₂_and_left, eq_comm (a := scores), ← List.forall₂_eq_eq_eq,
      List.forall₂_map_left_iff]
  simp only [ScoresOn, each]

end Query

/-- The result stands for the leaf: it names its path, and has the best of the scores of the words. -/
structure ShowsLeaf (words : List (List Char)) (r : Record) (leaf : String × Scalar)
    (result : SearchResult) : Prop where
  key : result.key = r.key
  place : result.matchedFields = [leaf.1]
  score : ∃ xs, Query.ScoresOn words leaf.2 xs ∧ Query.IsMaximum result.score xs

/-- One result for each of the leaves that all words match, in the order of the leaves. -/
inductive ShowsLeaves (words : List (List Char)) (r : Record) :
    List (String × Scalar) → List SearchResult → Prop
  | nil : ShowsLeaves words r [] []
  | shown {leaf : String × Scalar} {leaves : List (String × Scalar)} {result : SearchResult}
      {results : List SearchResult} : ShowsLeaf words r leaf result →
      ShowsLeaves words r leaves results →
      ShowsLeaves words r (leaf :: leaves) (result :: results)
  | passed {leaf : String × Scalar} {leaves : List (String × Scalar)}
      {results : List SearchResult} : (¬∃ xs, Query.ScoresOn words leaf.2 xs) →
      ShowsLeaves words r leaves results → ShowsLeaves words r (leaf :: leaves) results

namespace Engine

variable {e : Engine} {r : Record} {text : String} {expr : Query.Expr} {leaf : String × Scalar}

theorem matchedFields_resultOf {v : Evaluation} {path : String} (found : v.hits ≠ [])
    (here : ∀ h ∈ v.hits, h.path = path) : (e.resultOf r v).matchedFields = [path] := by
  have named (other : String) : other ∈ (e.resultOf r v).matchedFields ↔ other ∈ [path] := by
    rw [mem_matchedFields_resultOf, List.mem_singleton]
    constructor
    · rintro ⟨h, mem, rfl⟩
      exact here h mem
    · rintro rfl
      obtain ⟨h, mem⟩ := List.exists_mem_of_ne_nil _ found
      exact ⟨h, mem, here h mem⟩
  -- Nothing is named twice, so that to have the same members is enough.
  have once : (e.resultOf r v).matchedFields.Perm [path] :=
    (List.perm_ext_iff_of_nodup nodup_matchedFields_resultOf
      (List.pairwise_singleton _ path)).mpr named
  exact List.perm_singleton.mp once

section

variable (asked : Query.freeText text = some expr)

include asked

theorem matched_leafEvaluation_iff : (e.leafEvaluation expr leaf).matched = true ↔
    ∃ xs, Query.ScoresOn (Text.words text.toList) leaf.2 xs := by
  rw [leafEvaluation, Query.matched_freeText_iff asked]
  simp only [Query.scoresOn_iff]
  constructor
  · rintro ⟨t, held, all⟩
    exact ⟨_, t, held, all, rfl⟩
  · rintro ⟨_, t, held, all, -⟩
    exact ⟨t, held, all⟩

theorem showsLeaf_resultOf (matched : (e.leafEvaluation expr leaf).matched = true) :
    ShowsLeaf (Text.words text.toList) r leaf (e.resultOf r (e.leafEvaluation expr leaf)) := by
  obtain ⟨t, held, all⟩ := (Query.matched_freeText_iff asked).mp matched
  have evaluated : e.leafEvaluation expr leaf = _ :=
    Query.evaluation_freeText_of_matched asked held all
  obtain ⟨w, ws, words, -⟩ := Query.exists_evaluation_freeText asked
  constructor
  case key => rfl
  case place =>
    apply matchedFields_resultOf
    · rw [evaluated, words]
      exact List.cons_ne_nil _ _
    · rw [evaluated]
      intro h mem
      obtain ⟨_, -, rfl⟩ := List.mem_map.mp mem
      rfl
  case score =>
    refine ⟨_, Query.scoresOn_iff.mpr ⟨t, held, all, rfl⟩, ?_⟩
    have maximum := Query.isMaximum_best
      ((Text.words text.toList).map fun w => (Query.wordPattern w).grade t)
    rw [List.map_map] at maximum
    rw [evaluated]
    exact maximum

theorem showsLeaves_leafResults :
    ShowsLeaves (Text.words text.toList) r r.profile.leaves (e.leafResults expr r) := by
  unfold leafResults
  -- One leaf after the other, whatever record they come from.
  induction r.profile.leaves with
  | nil => exact .nil
  | cons leaf rest ih =>
    by_cases matched : (e.leafEvaluation expr leaf).matched = true
    · rw [List.filterMap_cons, if_pos matched]
      exact .shown (showsLeaf_resultOf asked matched) ih
    · rw [List.filterMap_cons, if_neg matched]
      refine .passed ?_ ih
      rwa [← matched_leafEvaluation_iff asked (e := e)]

end

/-- The words of a text within the first record that has the id: each leaf that all of them match
has one result, and the results are ranked. Nothing is found if no record has the id. -/
theorem searchWithin_lists_matching_leaves (e : Engine) {st : Store} {name text : String}
    {rs : List Record} (known : st.records name = .ok rs)
    (filled : Text.words (normalizeText text).toList ≠ []) (id : String) :
    ((∀ r ∈ rs, r.id ≠ id) → e.searchWithin st.source name id text = .ok [] ∧
      e.withinAborts st.source name id text = false) ∧
    ∀ r, IsFirst (·.id = id) rs r →
      (∃ found results, e.searchWithin st.source name id text = .ok results ∧
        ShowsLeaves (Text.words (normalizeText text).toList) r r.profile.leaves found ∧
        IsRanking found results ∧ results.Pairwise fun a b => b.score ≤ a.score) ∧
      ((Target.record r).Fits e.context → e.withinAborts st.source name id text = false) := by
  obtain ⟨expr, asked⟩ := Query.exists_freeText filled
  constructor
  · intro absent
    have unknown : rs.find? (·.id = id) = none := by simpa using absent
    have nowhere : st.source.record? name id = .ok none := by
      rw [← unknown]
      exact Store.record?_of_records known
    refine ⟨searchWithin_of_absent nowhere, withinAborts_of_fits ?_ text⟩
    intro r found
    rw [nowhere] at found
    cases found
  · intro r first
    have found : st.source.record? name id = .ok (some r) := by
      rw [← first.find?_eq]
      exact Store.record?_of_records known
    have ranking := isRanking_ranked (e.leafResults expr r)
    have shown : ShowsLeaves _ r r.profile.leaves (e.leafResults expr r) :=
      showsLeaves_leafResults asked
    refine ⟨⟨_, _, searchWithin_of_record asked found, shown, ranking, ?_⟩, ?_⟩
    · apply ranking.descending_score
      intro result mem
      obtain ⟨_, -, rfl⟩ := exists_leaf_of_mem_leafResults mem
      exact ⟨_, rfl⟩
    · intro fits
      apply withinAborts_of_fits
      intro other read
      rw [found] at read
      cases read
      exact fits

/-- Two records have the id. In the first of them null and a text without one of the words are
passed over, and a word that is asked for twice counts once. -/
theorem searchWithin_lists_matching_leaves_nested :
    let e : Engine := ⟨.default, .off, .default, 50⟩
    let ann : Record := ⟨"people", "1", "profile",
      ⟨[("core", .mapping [("aliases", .sequence [.scalar .null, .scalar (.text "Ann Lee")]),
        ("name", .scalar (.text "Joann"))]), ("tags", .scalar (.text "Ann"))], by decide⟩, none⟩
    let namesake : Record := ⟨"people", "1", "profile", .empty, none⟩
    let st := Store.ofCollections (.ofList [("people", [ann, namesake])])
    let text := " Ann  a* ann"
    st.records "people" = .ok [ann, namesake] ∧ Text.words (normalizeText text).toList ≠ [] ∧
      IsFirst (·.id = "1") [ann, namesake] ann ∧ (Target.record ann).Fits e.context ∧
      (∃ found results, e.searchWithin st.source "people" "1" text = .ok results ∧
        ShowsLeaves (Text.words (normalizeText text).toList) ann ann.profile.leaves found ∧
        IsRanking found results ∧ (results.Pairwise fun a b => b.score ≤ a.score) ∧
        (results.map (·.matchedFields)).Perm [["core.aliases.1"], ["tags"]]) ∧
      e.withinAborts st.source "people" "1" text = false ∧
      e.searchWithin st.source "people" "2" text = .ok [] := by
  intro e ann namesake st text
  have known : st.records "people" = .ok [ann, namesake] := rfl
  have filled : Text.words (normalizeText text).toList ≠ [] := by decide +kernel
  have first : IsFirst (·.id = "1") [ann, namesake] ann := ⟨[], [namesake], rfl, rfl, by simp⟩
  obtain ⟨-, present⟩ := searchWithin_lists_matching_leaves e known filled "1"
  obtain ⟨⟨found, results, answered, shown, ranking, descending⟩, complete⟩ := present ann first
  have fits : (Target.record ann).Fits e.context := by decide +kernel
  obtain ⟨absent, -⟩ := searchWithin_lists_matching_leaves e known filled "2"
  obtain ⟨nothing, -⟩ := absent (by simp [ann, namesake])
  have places : (results.map (·.matchedFields)).Perm [["core.aliases.1"], ["tags"]] := by
    let expr : Query.Expr := .and (.and (.term ⟨none, "Ann", false⟩) (.term ⟨none, "a*", false⟩))
      (.term ⟨none, "ann", false⟩)
    have asked : Query.freeText (normalizeText text) = some expr := by decide +kernel
    have read : st.source.record? "people" "1" = .ok (some ann) := rfl
    rw [searchWithin_of_record asked read] at answered
    cases answered
    have leaves : (e.leafResults expr ann).map (·.matchedFields) =
        [["core.aliases.1"], ["tags"]] := by decide +kernel
    rw [← leaves]
    exact (isRanking_ranked _).perm.map _
  exact ⟨known, filled, first, fits, ⟨found, results, answered, shown, ranking, descending, places⟩,
    complete fits, nothing⟩

end Engine

end Dossier
