import Dossier.Proofs.Near.Search
import Dossier.Proofs.Search.Listing
import Dossier.Proofs.Search.Merge
import Dossier.Proofs.Search.Ranking

/-!
Where the results of a request come from. Each is the own result of a record that was found, or a
near miss of a record that no result was found for.
-/

namespace Dossier.Engine

section

variable (e : Engine) (q : Request)

def nearResults (text : String) (candidates : List Record) (results : List SearchResult) :
    List SearchResult :=
  (Near.hits e.similarity e.policy text candidates (results.map (·.key)) (e.fieldsOf q)).filterMap
    fun h => candidates[h.index]?.map fun r => e.nearResult q.highlight r h

/-- The result stands for a near miss of the record, with a score of the policy for a similarity. -/
def IsNearMiss (r : Record) (s : SearchResult) : Prop :=
  ∃ h x, e.policy.score? x = some h.score ∧ s = e.nearResult q.highlight r h

def LooksNear (found : Nat) : Prop :=
  Near.isWanted e.similarity q.fuzzy found q.limit = true ∧ Near.core q.nearText ≠ ""

end

variable {e : Engine} {q : Request} {expr : Query.Expr} {scope : List Record} {s : SearchResult}

theorem withNear_eq (e : Engine) (q : Request) (text : String) (candidates : List Record)
    (results : List SearchResult) :
    e.withNear q text candidates results =
      if Near.isWanted e.similarity q.fuzzy results.length q.limit then
        SearchResult.mergeUnique results (e.nearResults q text candidates results)
      else results := rfl

theorem exists_hit_of_mem_nearResults {text : String} {candidates : List Record}
    {results : List SearchResult} (mem : s ∈ e.nearResults q text candidates results) :
    ∃ h ∈ Near.hits e.similarity e.policy text candidates (results.map (·.key)) (e.fieldsOf q),
      ∃ r, candidates[h.index]? = some r ∧ s = e.nearResult q.highlight r h := by
  obtain ⟨h, hit, made⟩ := List.mem_filterMap.mp mem
  obtain ⟨r, stands, made⟩ := Option.map_eq_some_iff.mp made
  exact ⟨h, hit, r, stands, made.symm⟩

theorem mem_nearResults {text : String} {candidates : List Record} {results : List SearchResult}
    (mem : s ∈ e.nearResults q text candidates results) :
    Near.core text ≠ "" ∧
      ∃ r ∈ candidates, r.key ∉ results.map (·.key) ∧ e.IsNearMiss q r s := by
  obtain ⟨h, hit, r, stands, rfl⟩ := exists_hit_of_mem_nearResults mem
  obtain ⟨asked, _, _, b, here, new, _, accepted, _, _⟩ := Near.mem_hits_iff.mp hit
  obtain rfl := Option.some.inj (stands.symm.trans here)
  exact ⟨asked, r, List.mem_of_getElem? stands, new, h, b.similarity, accepted, rfl⟩

theorem keys_ownResults (e : Engine) (q : Request) (expr : Query.Expr) (records : List Record) :
    (records.map (e.ownResult q expr)).map (·.key) = records.map (·.key) := by
  rw [List.map_map]
  rfl

theorem isRanking_listing (e : Engine) (q : Request) (expr : Query.Expr) (scope : List Record) :
    IsRanking (e.withNear q q.nearText (scope.filter (allows q))
      ((e.found q expr scope).map (e.ownResult q expr))) (e.listing q expr scope) :=
  isRanking_ranked _

theorem perm_listing (e : Engine) (q : Request) (expr : Query.Expr) (scope : List Record) :
    (e.listing q expr scope).Perm (e.withNear q q.nearText (scope.filter (allows q))
      ((e.found q expr scope).map (e.ownResult q expr))) :=
  (isRanking_listing e q expr scope).perm

theorem key_mem_listing {r : Record} (mem : r ∈ e.found q expr scope) :
    r.key ∈ (e.listing q expr scope).map (·.key) := by
  have own := List.mem_map_of_mem (f := e.ownResult q expr) mem
  rw [((perm_listing e q expr scope).map _).mem_iff, withNear_eq]
  split
  · exact SearchResult.key_mem_firstPerKey List.not_mem_nil (List.mem_append_left _ own)
  · exact List.mem_map_of_mem (f := (·.key)) own

/-- A result of a listing is the own result of a record that was found, or one of those for near
misses, which are then looked for. -/
theorem cases_of_mem_listing (mem : s ∈ e.listing q expr scope) :
    (∃ r ∈ e.found q expr scope, s = e.ownResult q expr r) ∨
      Near.isWanted e.similarity q.fuzzy (e.found q expr scope).length q.limit = true ∧
        s ∈ e.nearResults q q.nearText (scope.filter (allows q))
          ((e.found q expr scope).map (e.ownResult q expr)) := by
  have own (mem : s ∈ (e.found q expr scope).map (e.ownResult q expr)) :
      ∃ r ∈ e.found q expr scope, s = e.ownResult q expr r := by
    obtain ⟨r, found, rfl⟩ := List.mem_map.mp mem
    exact ⟨r, found, rfl⟩
  rw [(perm_listing e q expr scope).mem_iff, withNear_eq, List.length_map] at mem
  split at mem
  · rename_i wanted
    exact (SearchResult.mem_of_mem_mergeUnique mem).imp own fun near => ⟨wanted, near⟩
  · exact .inl (own mem)

theorem origin_of_mem_listing (mem : s ∈ e.listing q expr scope) :
    (∃ r ∈ e.found q expr scope, s = e.ownResult q expr r) ∨
      e.LooksNear q (e.found q expr scope).length ∧
        ∃ r ∈ scope, r.key ∉ (e.found q expr scope).map (·.key) ∧ e.IsNearMiss q r s := by
  refine (cases_of_mem_listing mem).imp_right ?_
  rintro ⟨wanted, near⟩
  obtain ⟨asked, r, candidate, new, near⟩ := mem_nearResults near
  rw [keys_ownResults] at new
  exact ⟨⟨wanted, asked⟩, r, (List.mem_filter.mp candidate).1, new, near⟩

end Dossier.Engine
