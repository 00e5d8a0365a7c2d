import Dossier.Proofs.Search.Containment
import Dossier.Proofs.Search.Rebuild

/-!
A rebuild of the index as it runs: the records are read first, and then their texts are written one
by one. A store in memory takes every write, so that a rebuild fails only before the first of them
and writes all of its scope or nothing. A scope that was read as a whole is answered by the index
from then on.
-/

namespace Dossier

namespace Source

/-- The source lists what the store lists, but any of its listings may fail instead. -/
structure IsAround (s : Source) (st : Store) : Prop where
  collections : ∀ names, s.collections = .ok names → names = st.collectionNames
  records : ∀ name rs, s.records name = .ok rs → st.records name = .ok rs

def reads (s : Source) (name : String) : Bool := (s.records name).isOk

end Source

namespace Store

theorem isAround_source (st : Store) : st.source.IsAround st where
  collections _ listed := (Except.ok.inj listed).symm
  records _ _ listed := listed

def readable (st : Store) (s : Source) (collection : Option String) : List Record :=
  st.allRecords.filter fun r => collection.all (r.collection = ·) && s.reads r.collection

variable {st : Store} {s : Source} {collection : Option String} {records : List Record}

theorem scope?_of_records {name : String} (listed : st.records name = .ok records) :
    st.scope? (some name) = some records := by
  cases known : st.scope? (some name) with
  | none =>
    rw [← scan_some, scan_of_unknown known] at listed
    cases listed
  | some scope =>
    rw [← scan_some, scan_of_scope? known] at listed
    rw [Except.ok.inj listed]

theorem filter_reads (around : s.IsAround st) {entry : String × List Record}
    (mem : entry ∈ st.collections.entries) :
    entry.2.filter (fun r => s.reads r.collection) = (s.records entry.1).toOption.getD [] := by
  have known : st.records entry.1 = .ok entry.2 := by
    rw [records, Dict.find?_eq_some_iff.mpr mem]
  have own : entry.2.filter (fun r => s.reads r.collection) =
      entry.2.filter fun _ => s.reads entry.1 :=
    List.filter_congr fun r inside => by rw [st.addressed entry mem r inside]
  rw [own, Source.reads]
  cases listed : s.records entry.1 with
  | error f => exact List.filter_eq_nil_iff.mpr fun _ _ => Bool.false_ne_true
  | ok rs =>
    have same := Except.ok.inj (known.symm.trans (around.records entry.1 rs listed))
    rw [same]
    exact List.filter_eq_self.mpr fun _ _ => rfl

theorem eq_readable_of_scan (around : s.IsAround st) (scanned : s.scan collection = .ok records) :
    records = st.readable s collection := by
  cases collection with
  | some name =>
    have inScope := scope?_of_records (around.records name records scanned)
    have read : s.reads name = true := by
      have listed : s.records name = .ok records := scanned
      rw [Source.reads, listed]
      rfl
    rw [eq_filter_of_scope? inScope, readable]
    apply List.filter_congr
    intro r _
    by_cases own : r.collection = name
    · simp [own, read]
    · simp [own]
  | none =>
    cases listed : s.collections with
    | error f =>
      rw [Source.scan_of_unlisted listed] at scanned
      cases scanned
    | ok names =>
      have listing : s.scan none =
          .ok (names.flatMap fun name => (s.records name).toOption.getD []) := by
        change s.collections.map _ = _
        rw [listed]
        rfl
      rw [listing, around.collections names listed, collectionNames, Dict.keys,
        List.flatMap_map] at scanned
      rw [← Except.ok.inj scanned, readable, allRecords, List.filter_flatMap]
      exact List.flatMap_congr fun entry mem => (filter_reads around mem).symm

theorem readable_eq_of_reads {scope : List Record} (inScope : st.scope? collection = some scope)
    (reads : ∀ r ∈ scope, s.reads r.collection = true) : st.readable s collection = scope := by
  rw [eq_filter_of_scope? inScope] at reads ⊢
  apply List.filter_congr
  intro r mem
  cases own : collection.all (r.collection = ·) with
  | false => rfl
  | true => rw [reads r (List.mem_filter.mpr ⟨mem, own⟩), Bool.and_true]

theorem scope?_of_scan (around : s.IsAround st) (scanned : s.scan collection = .ok records)
    (unskipped : ∀ name ∈ st.collectionNames, collection.all (· = name) → s.reads name) :
    st.scope? collection = some records := by
  cases collection with
  | some name => exact scope?_of_records (around.records name records scanned)
  | none =>
    have whole : st.scope? none = some st.allRecords := rfl
    have readAll : ∀ r ∈ st.allRecords, s.reads r.collection = true := by
      intro r mem
      obtain ⟨entry, inStore, inside⟩ := List.mem_flatMap.mp mem
      rw [st.addressed entry inStore r inside]
      exact unskipped entry.1 (List.mem_map_of_mem inStore) rfl
    rw [whole, eq_readable_of_scan around scanned, readable_eq_of_reads whole readAll]

end Store

/-- A program that writes to a store and may fail; the store stays behind either way. -/
abbrev Writing (α : Type) : Type := ExceptT SearchError (StateM Store) α

namespace Engine

/-- The rebuild as it runs: a scan, and then a write for each record that it gives. -/
def reindex (e : Engine) (s : Source) (collection : Option String) : Writing Nat := do
  let records ← (s.scan collection).mapError SearchError.store
  records.forM fun r => modify fun st => st.upsert r.id (SearchText.ofRecord r e.schema.searchable)
  return records.length

theorem run_forM_modify (change : Record → Store → Store) (records : List Record) (st : Store) :
    ((records.forM fun r => modify (change r) : Writing PUnit).run.run st) =
      (.ok ⟨⟩, records.foldl (fun st r => change r st) st) := by
  induction records generalizing st with
  | nil => rfl
  | cons r rest ih => exact ih (change r st)

/-- Run step by step, the rebuild leaves the store of its answer, or the store as it was. -/
theorem run_reindex (e : Engine) (s : Source) (collection : Option String) (st : Store) :
    (e.reindex s collection).run.run st =
      match e.rebuildIndex s collection st with
      | .ok (n, now) => (.ok n, now)
      | .error f => (.error f, st) := by
  cases scanned : s.scan collection with
  | error f =>
    simp only [reindex, rebuildIndex, scanned, Except.mapError]
    rfl
  | ok records =>
    simp only [reindex, rebuildIndex, scanned, Except.mapError]
    let write (r : Record) (st : Store) : Store :=
      st.upsert r.id (SearchText.ofRecord r e.schema.searchable)
    have loop := run_forM_modify write records st
    change ((records.forM fun r => modify (write r) : Writing PUnit) >>= fun _ =>
      pure records.length).run.run st = _
    rw [ExceptT.run_bind, StateT.run_bind, loop]
    rfl

structure WritesAll (e : Engine) (records : List Record) (st now : Store) : Prop where
  written : ∀ id last, lastWith? records id = some last →
    now.searchText? id = some (SearchText.ofRecord last e.schema.searchable)
  kept : ∀ id, (∀ r ∈ records, r.id ≠ id) → now.searchText? id = st.searchText? id
  collections : now.collections = st.collections

theorem writesAll_foldl (e : Engine) (records : List Record) (st : Store) :
    e.WritesAll records st (records.foldl
      (fun st r => st.upsert r.id (SearchText.ofRecord r e.schema.searchable)) st) where
  written id last found := by
    rw [Store.searchText?_foldl_upsert, found, Option.map_some, Option.some_or]
  kept id absent := by
    rw [Store.searchText?_foldl_upsert, lastWith?_eq_none_iff.mpr absent, Option.map_none,
      Option.none_or]
  collections := by
    obtain ⟨texts, now⟩ :=
      Store.foldl_upsert (fun r => SearchText.ofRecord r e.schema.searchable) records st
    rw [now]
    rfl

variable {e : Engine} {s : Source} {st now : Store} {collection : Option String}
  {records : List Record}

theorem WritesAll.isSome (writes : e.WritesAll records st now) {r : Record} (mem : r ∈ records) :
    (now.searchText? r.id).isSome := by
  cases found : lastWith? records r.id with
  | none => exact absurd rfl (lastWith?_eq_none_iff.mp found r mem)
  | some last => rw [writes.written r.id last found, Option.isSome_some]

theorem WritesAll.indexed (writes : e.WritesAll records st now)
    (inScope : st.scope? collection = some records) (nonempty : records ≠ []) (query : String) :
    ∃ hits, now.indexed collection query = .ok hits ∧ hits.map (·.record) = records := by
  have covered : now.Covers records := ⟨nonempty, fun r mem => writes.isSome mem⟩
  have same : now.scope? collection = some records := by
    rw [← inScope]
    unfold Store.scope?
    rw [writes.collections]
  have answered : now.indexHits records query = .ok _ := Store.indexHits_of_covers covered
  refine ⟨_, ?_, Store.records_of_indexHits answered⟩
  rw [Store.indexed_of_scope? same, answered]

/-- A rebuild writes exactly the records in question that can be read, the last of those with one
id, and counts them; or it fails on the scan and leaves the store as it was. If there are such
records and none in question were skipped, the index lists them from then on. -/
theorem rebuild_writes_scope_or_nothing (e : Engine) (around : s.IsAround st)
    (collection : Option String) :
    (∀ n now, e.rebuildIndex s collection st = .ok (n, now) →
      (e.reindex s collection).run.run st = (.ok n, now) ∧
        s.scan collection = .ok (st.readable s collection) ∧
        n = (st.readable s collection).length ∧
        e.WritesAll (st.readable s collection) st now ∧
        (0 < n → (∀ name ∈ st.collectionNames, collection.all (· = name) → s.reads name) →
          st.scope? collection = some (st.readable s collection) ∧
            ∀ query, ∃ hits, now.indexed collection query = .ok hits ∧
              hits.map (·.record) = st.readable s collection)) ∧
    ∀ f, e.rebuildIndex s collection st = .error f →
      (e.reindex s collection).run.run st = (.error f, st) ∧
        ∃ failure, s.scan collection = .error failure ∧ f = .store failure := by
  have stepwise := run_reindex e s collection st
  constructor
  · intro n now rebuilt
    rw [rebuilt] at stepwise
    cases scanned : s.scan collection with
    | error failure =>
      simp only [rebuildIndex, scanned] at rebuilt
      cases rebuilt
    | ok records =>
      simp only [rebuildIndex, scanned, Except.ok.injEq, Prod.mk.injEq] at rebuilt
      obtain ⟨counted, left⟩ := rebuilt
      have read := Store.eq_readable_of_scan around scanned
      have writes : e.WritesAll records st now := left ▸ e.writesAll_foldl records st
      rw [← read]
      refine ⟨stepwise, rfl, counted.symm, writes, fun someWritten unskipped => ?_⟩
      have inScope := Store.scope?_of_scan around scanned unskipped
      have nonempty : records ≠ [] := List.ne_nil_of_length_pos (counted ▸ someWritten)
      exact ⟨inScope, fun query => writes.indexed inScope nonempty query⟩
  · intro f failed
    rw [failed] at stepwise
    cases scanned : s.scan collection with
    | error failure =>
      simp only [rebuildIndex, scanned, Except.error.injEq] at failed
      exact ⟨stepwise, failure, rfl, failed.symm⟩
    | ok records =>
      simp only [rebuildIndex, scanned] at failed
      cases failed

/-- Two records of one id: both are counted, the text of the second stays, and the index then lists
both. For an unknown collection nothing is written. -/
theorem rebuild_writes_scope_or_nothing_one_id :
    let e : Engine := ⟨.default, .off, .default, 50⟩
    let record (collection name : String) : Record := ⟨collection, "a", "profile",
      ⟨[("core", .mapping [("name", .scalar (.text name))])], rfl⟩, none⟩
    let st := Store.ofCollections (.ofList
      [("case-1", [record "case-1" "Ann"]), ("case-2", [record "case-2" "Ben"])])
    let now := (st.upsert "a" "ann").upsert "a" "ben"
    st.source.IsAround st ∧ e.rebuildIndex st.source none st = .ok (2, now) ∧
      (e.reindex st.source none).run.run st = (.ok 2, now) ∧
      now.searchText? "a" = some "ben" ∧
      (∀ query, ∃ hits, now.indexed none query = .ok hits ∧
        hits.map (·.record) = [record "case-1" "Ann", record "case-2" "Ben"]) ∧
      (e.reindex st.source (some "case-3")).run.run st =
        (.error (.store (.collectionNotFound "case-3")), st) := by
  intro e record st now
  have around : st.source.IsAround st := st.isAround_source
  have texts : SearchText.ofRecord (record "case-1" "Ann") e.schema.searchable = "ann" ∧
      SearchText.ofRecord (record "case-2" "Ben") e.schema.searchable = "ben" := by decide +kernel
  have scanned : st.source.scan none = .ok [record "case-1" "Ann", record "case-2" "Ben"] := by
    rw [Store.scan_none]
    cbv
  have rebuilt : e.rebuildIndex st.source none st = .ok (2, now) := by
    simp only [rebuildIndex, scanned, List.foldl_cons, List.foldl_nil, texts]
    rfl
  obtain ⟨stepwise, read, -, writes, lists⟩ :=
    (rebuild_writes_scope_or_nothing e around none).1 2 now rebuilt
  have given : st.readable st.source none = [record "case-1" "Ann", record "case-2" "Ben"] :=
    Except.ok.inj (read.symm.trans scanned)
  rw [given] at writes lists
  have last := writes.written "a" (record "case-2" "Ben") (by cbv)
  have refused : e.rebuildIndex st.source (some "case-3") st =
      .error (.store (.collectionNotFound "case-3")) := by
    have unknown : st.scope? (some "case-3") = none := by cbv
    simp only [rebuildIndex, Store.scan_of_unknown unknown]
  obtain ⟨unchanged, -⟩ := (rebuild_writes_scope_or_nothing e around (some "case-3")).2 _ refused
  obtain ⟨-, listed⟩ := lists (by decide) (by decide +kernel)
  exact ⟨around, rebuilt, stepwise, last.trans (congrArg some texts.2), listed, unchanged⟩

end Engine

end Dossier
