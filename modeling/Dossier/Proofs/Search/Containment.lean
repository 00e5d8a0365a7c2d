import Dossier.Proofs.Search.Index
import Dossier.Proofs.Search.Listing

/-!
Failures of a source without an index. What is read of all collections is what the readable ones
hold, as if the others had been deleted; what is read of one collection is its own, or its failure.
Searches and rebuilds read in no other way.
-/

namespace Dossier

namespace Source

def IsOffline (s : Source) : Prop := ∀ collection text, ∃ f, s.indexed collection text = .error f

def IsBroken (s : Source) (broken : String → Bool) : Prop :=
  ∀ name, broken name = true → ∃ f, s.records name = .error f

/-- What remains of a source when some collections are deleted. -/
structure IsRest (rest s : Source) (deleted : String → Bool) : Prop where
  offline : rest.IsOffline
  listed : rest.collections = s.collections.map (·.filter fun name => !deleted name)
  kept : ∀ name, deleted name = false → rest.records name = s.records name

variable {s t rest : Source} {broken : String → Bool}

theorem candidates_of_offline (offline : s.IsOffline) (collection : Option String) (text : String) :
    s.candidates collection text = s.scan collection := by
  obtain ⟨f, failed⟩ := offline collection text
  unfold candidates
  rw [failed]

theorem scan_of_unlisted {f : StoreError} (failed : s.collections = .error f) :
    s.scan none = .error f := by
  change s.collections.map _ = _
  rw [failed]
  rfl

theorem exists_scan_of_listed {names : List String} (listed : s.collections = .ok names) :
    ∃ records, s.scan none = .ok records := by
  refine ⟨names.flatMap fun name => (s.records name).toOption.getD [], ?_⟩
  change s.collections.map _ = _
  rw [listed]
  rfl

theorem flatMap_rest (down : s.IsBroken broken) (remains : rest.IsRest s broken)
    (names : List String) :
    ((names.filter fun name => !broken name).flatMap fun name =>
        (rest.records name).toOption.getD []) =
      names.flatMap fun name => (s.records name).toOption.getD [] := by
  induction names with
  | nil => rfl
  | cons name others ih =>
    cases failing : broken name with
    | true =>
      obtain ⟨f, failed⟩ := down name failing
      rw [List.filter_cons_of_neg (by simp [failing]), ih, List.flatMap_cons, failed]
      rfl
    | false =>
      rw [List.filter_cons_of_pos (by simp [failing]), List.flatMap_cons, List.flatMap_cons, ih,
        remains.kept name failing]

theorem scan_rest (down : s.IsBroken broken) (remains : rest.IsRest s broken) :
    rest.scan none = s.scan none := by
  change rest.collections.map _ = s.collections.map _
  rw [remains.listed]
  cases s.collections with
  | error f => rfl
  | ok names => exact congrArg Except.ok (flatMap_rest down remains names)

end Source

namespace Store

def without (st : Store) (deleted : String → Bool) : Store where
  collections := st.collections.filterKeys fun name => !deleted name
  addressed e mem := st.addressed e (List.mem_filter.mp mem).1
  texts := st.texts

variable {st : Store} {deleted : String → Bool} {name : String}

theorem collectionNames_without (st : Store) (deleted : String → Bool) :
    (st.without deleted).collectionNames = st.collectionNames.filter fun name => !deleted name :=
  st.collections.keys_filterKeys _

theorem records_without (kept : deleted name = false) :
    (st.without deleted).records name = st.records name := by
  have stays : (!deleted name) = true := by rw [kept, Bool.not_false]
  have same : (st.without deleted).collections.find? name = st.collections.find? name :=
    Dict.find?_filterKeys stays
  rw [records, records, same]

/-- What can be read of a store whose index is offline and some of whose collections are down. -/
def failing (st : Store) (reason : Option String → String → StoreError)
    (down : String → Option StoreError) : Source :=
  { st.source.offline reason with
    records := fun name =>
      match down name with
      | some f => .error f
      | none => st.records name }

variable {reason : Option String → String → StoreError} {down : String → Option StoreError}

theorem isOffline_failing : (st.failing reason down).IsOffline :=
  fun collection text => ⟨reason collection text, rfl⟩

theorem records_failing_of_down {f : StoreError} (failed : down name = some f) :
    (st.failing reason down).records name = .error f := by
  simp only [failing, failed]

theorem records_failing_of_up (up : down name = none) :
    (st.failing reason down).records name = st.records name := by
  simp only [failing, up]

theorem isBroken_failing : (st.failing reason down).IsBroken fun name => (down name).isSome := by
  intro name unreadable
  obtain ⟨f, failed⟩ := Option.isSome_iff_exists.mp unreadable
  exact ⟨f, records_failing_of_down failed⟩

theorem isRest_without :
    ((st.without fun name => (down name).isSome).source.offline reason).IsRest
      (st.failing reason down) fun name => (down name).isSome where
  offline collection text := ⟨reason collection text, rfl⟩
  listed := congrArg Except.ok (st.collectionNames_without _)
  kept name readable := by
    have up : down name = none := by simpa using readable
    rw [records_failing_of_up up]
    exact records_without readable

end Store

namespace Engine

/-- What is answered from a scan, of one collection or of all, and how failures show in it. -/
structure ContainsFailures {α : Type} (s : Source) (broken : String → Bool)
    (answer : Source → Option String → Except SearchError α) : Prop where
  skipped : ∀ names, s.collections = .ok names →
    ∃ a, answer s none = .ok a ∧ ∀ rest : Source, rest.IsRest s broken → answer rest none = .ok a
  unlisted : ∀ f, s.collections = .error f → answer s none = .error (.store f)
  reported : ∀ name f, s.records name = .error f → answer s (some name) = .error (.store f)
  independent : ∀ name records, s.records name = .ok records →
    ∃ a, ∀ t : Source, t.IsOffline → t.records name = .ok records → answer t (some name) = .ok a

variable {s : Source} {broken : String → Bool} {q : Request} {expr : Query.Expr}

/-- An answer that depends on the scan alone, and fails only where the scan does. -/
theorem containsFailures_of_scan {α : Type} {answer : Source → Option String → Except SearchError α}
    (result : List Record → α) (offline : s.IsOffline) (down : s.IsBroken broken)
    (read : ∀ (t : Source) (collection : Option String), t.IsOffline → ∀ records,
      t.scan collection = .ok records → answer t collection = .ok (result records))
    (failed : ∀ (t : Source) (collection : Option String), t.IsOffline → ∀ f,
      t.scan collection = .error f → answer t collection = .error (.store f)) :
    ContainsFailures s broken answer where
  skipped names listed := by
    obtain ⟨records, scanned⟩ := Source.exists_scan_of_listed listed
    refine ⟨result records, read s none offline records scanned, ?_⟩
    intro rest remains
    rw [← Source.scan_rest down remains] at scanned
    exact read rest none remains.offline records scanned
  unlisted f unlisted := failed s none offline f (Source.scan_of_unlisted unlisted)
  reported name f unreadable := failed s (some name) offline f unreadable
  independent name records readable :=
    ⟨result records, fun t up same => read t (some name) up records same⟩

/-- Collections that cannot be read are left out of a search and of a rebuild as if they were
deleted, and are reported where they are asked for by name. The texts of a rebuild are written to a
store in memory, which takes every write: what fails here is reading alone. -/
theorem broken_collections_are_contained (e : Engine) (st : Store) (offline : s.IsOffline)
    (down : s.IsBroken broken) (asked : q.expr? = some expr) :
    ContainsFailures s broken (fun t collection => e.search t { q with collection := collection }) ∧
      ContainsFailures s broken fun t collection => e.rebuildIndex t collection st := by
  constructor
  · refine containsFailures_of_scan (fun records => ⟨(e.listing q expr records).length,
      slice (e.listing q expr records) q.offset q.limit⟩) offline down ?_ ?_
    · intro t collection up records scanned
      refine search_of_candidates (q := { q with collection := collection }) asked fun text => ?_
      rw [Source.candidates_of_offline up, scanned]
    · intro t collection up f failed
      refine search_of_failed_candidates (q := { q with collection := collection }) asked
        fun text => ?_
      rw [Source.candidates_of_offline up, failed]
  · refine containsFailures_of_scan (fun records => (records.length, records.foldl
      (fun st r => st.upsert r.id (SearchText.ofRecord r e.schema.searchable)) st))
      offline down ?_ ?_
    · intro t collection _ records scanned
      rw [rebuildIndex, scanned]
    · intro t collection _ f failed
      rw [rebuildIndex, failed]

/-- Two people are called Alice, and the collection of one of them is on a disk that is on fire. -/
theorem broken_collections_are_contained_burning_disk :
    let e : Engine := ⟨.default, .off, .default, 50⟩
    let person (id name : String) : Record := ⟨"", id, "profile",
      ⟨[("core", .mapping [("name", .scalar (.text name))])], rfl⟩, none⟩
    let st := (Store.empty.insert "case-1" (person "a" "Alice")).insert "burning"
      (person "z" "Alice")
    let fire : StoreError := .backend "disk on fire"
    let down := fun name => if name = "burning" then some fire else none
    let reason : Option String → String → StoreError := fun _ _ => .backend "index offline"
    let s := st.failing reason down
    let q := Request.ofText "alice"
    s.IsOffline ∧ s.IsBroken (fun name => (down name).isSome) ∧
      q.expr? = some (.term ⟨none, "alice", false⟩) ∧
      (∃ page, e.search s q = .ok page ∧
        page.rows = (1, [("case-1", "a", "profile", 1.0)]) ∧
        e.search ((st.without fun name => (down name).isSome).source.offline reason) q =
          .ok page) ∧
      e.search s { q with collection := some "burning" } = .error (.store fire) ∧
      ∃ written, e.rebuildIndex s none st = .ok (1, written) ∧
        written.searchText? "a" = some "alice" ∧ written.searchText? "z" = none := by
  intro e person st fire down reason s q
  have asked : q.expr? = some (.term ⟨none, "alice", false⟩) := by decide +kernel
  have offline : s.IsOffline := Store.isOffline_failing
  have broken : s.IsBroken fun name => (down name).isSome := Store.isBroken_failing
  have names : st.collectionNames = ["burning", "case-1"] := by decide +kernel
  have listed : s.collections = .ok ["burning", "case-1"] := congrArg Except.ok names
  obtain ⟨searched, rebuilt⟩ := broken_collections_are_contained e st offline broken asked
  refine ⟨offline, broken, asked, ?_, searched.reported "burning" fire rfl, ?_⟩
  · obtain ⟨page, answered, rest⟩ := searched.skipped _ listed
    have answered : e.search s q = .ok page := answered
    have rows : ((e.search s q).map Page.rows).toOption =
        some (1, [("case-1", "a", "profile", 1.0)]) := by decide +kernel
    rw [answered] at rows
    exact ⟨page, answered, Option.some.inj rows, rest _ Store.isRest_without⟩
  · obtain ⟨⟨n, written⟩, answered, _⟩ := rebuilt.skipped _ listed
    have answered : e.rebuildIndex s none st = .ok (n, written) := answered
    have left : ((e.rebuildIndex s none st).map fun now =>
        (now.1, now.2.searchText? "a", now.2.searchText? "z")).toOption =
        some (1, some "alice", none) := by decide +kernel
    rw [answered] at left
    obtain ⟨count, own, other⟩ : n = 1 ∧ written.searchText? "a" = some "alice" ∧
        written.searchText? "z" = none := by simpa using Option.some.inj left
    exact ⟨written, count ▸ answered, own, other⟩

end Engine

end Dossier
