import Dossier.Proofs.Profile.Resolution
import Dossier.Proofs.Search.Report

/-!
The fields that a result names are paths of its record. Hits and near misses are reported at paths
that some field means in the record, and as long as the names of its sections can be written into a
path, each of them leads back to a value there.
-/

namespace Dossier

namespace Engine

structure IsFor (e : Engine) (s : Source) (q : Request) (result : SearchResult) (r : Record) :
    Prop where
  candidate : ∃ records, s.candidates q.collection (normalizeText q.text) = .ok records ∧
    r ∈ records
  made : (∃ expr, q.expr? = some expr ∧ result = e.ownResult q expr r) ∨ e.IsNearMiss q r result
  key : result.key = r.key

variable {e : Engine} {s : Source} {q : Request} {r : Record} {path : String}

theorem exists_occurrence_of_resultOf {plan : Plan} {setting : Setting}
    (mem : path ∈ (e.resultOf r (plan.run (.record r) setting)).matchedFields) :
    ∃ field, ∃ c ∈ r.profile.occurrences field, c.1 = path := by
  obtain ⟨hit, reported, here⟩ := mem_matchedFields_resultOf.mp mem
  obtain ⟨field, c, meant, _, -, rfl⟩ := Plan.reports_of_mem_run reported
  exact ⟨field, c, meant, here⟩

/-- Every result of a search has its record, where each of the fields that it names was found. -/
theorem exists_isFor_of_search {page : Page} {result : SearchResult}
    (answered : e.search s q = .ok page) (mem : result ∈ page.results) :
    ∃ r, e.IsFor s q result r ∧ ∀ path ∈ result.matchedFields,
      ∃ field, ∃ c ∈ r.profile.occurrences field, c.1 = path := by
  cases asked : q.expr? with
  | none =>
    rw [search_of_nothing s asked] at answered
    cases answered
    cases mem
  | some expr =>
    obtain ⟨records, read, rfl⟩ := exists_candidates_of_search asked answered
    have listed : result ∈ e.listing q expr records :=
      List.mem_of_mem_drop (List.mem_of_mem_take mem)
    rcases cases_of_mem_listing listed with ⟨r, found, rfl⟩ | ⟨-, near⟩
    · have candidate := (List.mem_filter.mp found).1
      refine ⟨r, ⟨⟨records, read, candidate⟩, .inl ⟨expr, asked, rfl⟩, rfl⟩, ?_⟩
      exact fun path named => exists_occurrence_of_resultOf named
    · obtain ⟨h, hit, r, stands, rfl⟩ := exists_hit_of_mem_nearResults near
      obtain ⟨-, -, _, b, here, -, best, accepted, place, -⟩ := Near.mem_hits_iff.mp hit
      obtain rfl := Option.some.inj (stands.symm.trans here)
      have candidate := (List.mem_filter.mp (List.mem_of_getElem? stands)).1
      refine ⟨r, ⟨⟨records, read, candidate⟩, .inr ⟨h, _, accepted, rfl⟩, rfl⟩, ?_⟩
      intro path named
      obtain rfl := List.mem_singleton.mp named
      obtain ⟨field, -, c, meant, same, -⟩ := Near.exists_occurrence_of_best? best
      exact ⟨field, c, meant, same.trans place.symm⟩

/-- What a field means has different paths, and each of them leads back to the value that it was
reported with and to nothing else. So every field that a result names, whether it was matched or is
a near miss, leads to a value of the record that the result is for. -/
theorem reported_paths_lead_back :
    (∀ r : Record, r.profile.IsNamed → ∀ field,
      ((r.profile.occurrences field).map (·.1)).Nodup ∧
        ∀ path v, (path, v) ∈ r.profile.occurrences field → r.profile.LeadsTo path v) ∧
    ∀ (e : Engine) (s : Source) (q : Request) (page : Page), e.search s q = .ok page →
      ∀ result ∈ page.results, ∃ r, e.IsFor s q result r ∧
        (r.profile.IsNamed → ∀ path ∈ result.matchedFields, ∃ v, r.profile.LeadsTo path v) := by
  constructor
  · intro r named field
    exact ⟨r.profile.nodup_occurrences field, fun path v mem => named.leadsTo mem⟩
  · intro e s q page answered result mem
    obtain ⟨r, isFor, found⟩ := exists_isFor_of_search answered mem
    refine ⟨r, isFor, fun named path field => ?_⟩
    obtain ⟨_, c, meant, rfl⟩ := found path field
    exact ⟨c.2, named.leadsTo meant⟩

/-- Two sections have an empty key with more behind it, and the text below one of them is a near
miss. -/
theorem reported_paths_lead_back_empty_key :
    let e : Engine := ⟨.default, .edit, .default, 50⟩
    let jon : Record := ⟨"people", "1", "profile",
      ⟨[("core", .mapping [("", .mapping [("b", .scalar (.text "Jon"))])]),
        ("tags", .mapping [("", .mapping [("b", .scalar .null)])])], by decide⟩, none⟩
    let st := Store.ofCollections (.ofList [("people", [jon])])
    let q := { Request.ofText "john" with fields := [".b"], fuzzy := true }
    jon.profile.IsNamed ∧ ((jon.profile.occurrences ".b").map (·.1)).Nodup ∧
      jon.profile.LeadsTo "core..b" (.scalar (.text "Jon")) ∧
      jon.profile.LeadsTo "tags..b" (.scalar .null) ∧
      ∃ page result, e.search st.source q = .ok page ∧ result ∈ page.results ∧
        e.IsFor st.source q result jon ∧ result.matchedFields = ["core..b"] ∧
        ∃ v, jon.profile.LeadsTo "core..b" v := by
  intro e jon st q
  let expr : Query.Expr := .term ⟨none, "john", false⟩
  have named : jon.profile.IsNamed := ⟨by decide, by decide⟩
  have meant : jon.profile.occurrences ".b" =
      [("core..b", .scalar (.text "Jon")), ("tags..b", .scalar .null)] := rfl
  have asked : q.expr? = some expr := by decide +kernel
  have inScope : st.scope? q.collection = some [jon] := rfl
  have fields : (e.withNear q q.nearText ([jon].filter (allows q))
      ((e.found q expr [jon]).map (e.ownResult q expr))).map (·.matchedFields) =
        [["core..b"]] := by decide +kernel
  obtain ⟨result, one, place⟩ := List.map_eq_singleton_iff.mp fields
  have listed : e.listing q expr [jon] = [result] := by
    rw [← List.perm_singleton, ← one]
    exact perm_listing e q expr [jon]
  have answered := search_of_scope (e := e) asked inScope
  rw [listed] at answered
  have mem : result ∈ slice [result] q.offset q.limit := List.mem_singleton.mpr rfl
  obtain ⟨resolve, searched⟩ := reported_paths_lead_back
  obtain ⟨nodup, leads⟩ := resolve jon named ".b"
  obtain ⟨r, isFor, found⟩ := searched e st.source q _ answered result mem
  have only : r = jon := by
    obtain ⟨records, read, candidate⟩ := isFor.candidate
    rw [Store.candidates_eq_scan, Store.scan_of_scope? inScope] at read
    cases read
    exact List.mem_singleton.mp candidate
  subst only
  refine ⟨named, nodup, leads _ _ ?_, leads _ _ ?_, _, result, answered, mem, isFor, place,
    found named _ ?_⟩
  · rw [meant]
    exact List.mem_cons_self
  · rw [meant]
    exact List.mem_cons_of_mem _ List.mem_cons_self
  · rw [place]
    exact List.mem_singleton_self _

end Engine

end Dossier
