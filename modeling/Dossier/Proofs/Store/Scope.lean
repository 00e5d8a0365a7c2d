import Dossier.Proofs.Dict
import Dossier.Store.Basic

/-!
What a search reads of a store. The index gives the records that a scan gives, in the same order, so
that a search reads the same records whether there is an index or not.
-/

namespace Dossier.Store

/-- The records of one collection, or of all in the order of their names; none if there is no such
collection. -/
def scope? (st : Store) : Option String → Option (List Record)
  | some name => st.collections.find? name
  | none => some (st.collections.entries.flatMap (·.2))

variable {st : Store} {name text : String} {collection : Option String} {rs : List Record}

theorem records_of_indexHits {hits : List IndexHit} (h : st.indexHits rs text = .ok hits) :
    hits.map (·.record) = rs := by
  unfold indexHits at h
  dsimp only at h
  split at h
  · cases h
  · cases h
    rw [List.map_map]
    exact List.map_id _

theorem record?_of_records {id : String} (listed : st.records name = .ok rs) :
    st.record? name id = .ok (rs.find? (·.id = id)) := by
  rw [record?, listed]
  rfl

theorem scan_some (st : Store) (name : String) : st.source.scan (some name) = st.records name := rfl

theorem scan_none (st : Store) : st.source.scan none = .ok st.allRecords := by
  have own : ∀ e ∈ st.collections.entries, (st.records e.1).toOption.getD [] = e.2 := by
    intro e he
    have found : st.collections.find? e.1 = some e.2 := Dict.find?_eq_some_iff.mpr he
    simp [records, found, Except.toOption]
  have all : (st.collectionNames.flatMap fun name => (st.records name).toOption.getD []) =
      st.allRecords := by
    rw [collectionNames, Dict.keys, List.flatMap_map, allRecords, List.flatMap_def,
      List.flatMap_def, List.map_congr_left own]
  exact congrArg Except.ok all

theorem indexed_eq_scan_bind (st : Store) (collection : Option String) (text : String) :
    st.indexed collection text = (st.source.scan collection).bind (st.indexHits · text) := by
  cases collection with
  | none =>
    rw [scan_none]
    rfl
  | some name => rfl

/-- The index is no more than a help. -/
theorem candidates_eq_scan (st : Store) (collection : Option String) (text : String) :
    st.source.candidates collection text = st.source.scan collection := by
  unfold Source.candidates
  have indexed := st.indexed_eq_scan_bind collection text
  change st.source.indexed collection text = _ at indexed
  rw [indexed]
  cases st.source.scan collection with
  | error f => rfl
  | ok rs =>
    dsimp only [Except.bind]
    split
    · rename_i hits answered
      exact congrArg Except.ok (records_of_indexHits answered)
    · rfl

theorem scan_of_scope? (h : st.scope? collection = some rs) :
    st.source.scan collection = .ok rs := by
  cases collection with
  | none =>
    cases h
    exact st.scan_none
  | some name =>
    change st.collections.find? name = some rs at h
    rw [scan_some, records, h]

theorem scan_of_unknown (h : st.scope? (some name) = none) :
    st.source.scan (some name) = .error (.collectionNotFound name) := by
  change st.collections.find? name = none at h
  rw [scan_some, records, h]

theorem indexed_of_scope? (h : st.scope? collection = some rs) :
    st.indexed collection text = st.indexHits rs text := by
  rw [indexed_eq_scan_bind, scan_of_scope? h]
  rfl

theorem filter_flatMap_of_lookup? {entries : List (String × List Record)} (ordered : Ordered entries)
    (addressed : ∀ e ∈ entries, ∀ r ∈ e.2, r.collection = e.1)
    (found : lookup? name entries = some rs) :
    (entries.flatMap (·.2)).filter (·.collection = name) = rs := by
  induction entries with
  | nil => cases found
  | cons e rest ih =>
    obtain ⟨above, tail⟩ := List.pairwise_cons.mp ordered
    obtain ⟨own, others⟩ := List.forall_mem_cons.mp addressed
    rw [lookup?_cons] at found
    rw [List.flatMap_cons, List.filter_append]
    by_cases same : e.1 = name
    · rw [if_pos same] at found
      obtain rfl := Option.some.inj found
      have kept : e.2.filter (·.collection = name) = e.2 := by
        refine List.filter_eq_self.mpr fun r mem => ?_
        rw [own r mem, same, decide_eq_true_eq]
      have dropped : (rest.flatMap (·.2)).filter (·.collection = name) = [] := by
        refine List.filter_eq_nil_iff.mpr fun r mem => ?_
        obtain ⟨f, inRest, mem⟩ := List.mem_flatMap.mp mem
        rw [others f inRest r mem, ← same, decide_eq_true_eq]
        exact (String.ne_of_lt (above f inRest)).symm
      rw [kept, dropped, List.append_nil]
    · rw [if_neg same] at found
      have dropped : e.2.filter (·.collection = name) = [] := by
        refine List.filter_eq_nil_iff.mpr fun r mem => ?_
        rw [own r mem, decide_eq_true_eq]
        exact same
      rw [dropped, List.nil_append, ih tail others found]

theorem eq_filter_of_scope? (inScope : st.scope? collection = some rs) :
    rs = st.allRecords.filter fun r => collection.all (r.collection = ·) := by
  cases collection with
  | none =>
    cases inScope
    exact (List.filter_eq_self.mpr fun _ _ => rfl).symm
  | some name =>
    exact (filter_flatMap_of_lookup? st.collections.ordered st.addressed inScope).symm

end Dossier.Store
