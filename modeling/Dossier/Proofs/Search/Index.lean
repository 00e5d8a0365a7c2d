import Dossier.Proofs.Store.Scope
import Dossier.Search.Engine

/-!
A search answers the same whatever the search texts of its store are. They are written one by one
or by a rebuild, may be missing, out of date or of any other content, and an index that never
answers does as well. All that a search reads of a store is what a scan lists.
-/

namespace Dossier

/-- What writes search texts. A rebuild goes by the schema of its own engine. -/
inductive IndexEvent where
  | upsert (id text : String)
  | rebuild (e : Engine) (collection : Option String)

namespace Store

def withTexts (st : Store) (texts : Dict String) : Store := { st with texts := texts }

def next (st : Store) : IndexEvent → Store
  | .upsert id text => st.upsert id text
  | .rebuild e collection =>
    match e.rebuildIndex st.source collection st with
    | .ok (_, written) => written
    | .error _ => st

def after (st : Store) (events : List IndexEvent) : Store := events.foldl next st

theorem foldl_upsert (text : Record → String) (records : List Record) (st : Store) :
    ∃ texts, records.foldl (fun s r => s.upsert r.id (text r)) st = st.withTexts texts := by
  induction records generalizing st with
  | nil => exact ⟨st.texts, rfl⟩
  | cons r rest ih =>
    obtain ⟨texts, written⟩ := ih (st.upsert r.id (text r))
    exact ⟨texts, written⟩

theorem next_eq_withTexts (st : Store) (event : IndexEvent) :
    ∃ texts, st.next event = st.withTexts texts := by
  cases event with
  | upsert id text => exact ⟨st.texts.insert id text, rfl⟩
  | rebuild e collection =>
    cases listed : st.source.scan collection with
    | error f =>
      refine ⟨st.texts, ?_⟩
      simp only [next, Engine.rebuildIndex, listed]
      rfl
    | ok records =>
      obtain ⟨texts, written⟩ :=
        foldl_upsert (fun r => SearchText.ofRecord r e.schema.searchable) records st
      refine ⟨texts, ?_⟩
      simp only [next, Engine.rebuildIndex, listed]
      exact written

theorem after_eq_withTexts (st : Store) (events : List IndexEvent) :
    ∃ texts, st.after events = st.withTexts texts := by
  induction events generalizing st with
  | nil => exact ⟨st.texts, rfl⟩
  | cons event rest ih =>
    obtain ⟨first, now⟩ := st.next_eq_withTexts event
    obtain ⟨texts, later⟩ := ih (st.next event)
    refine ⟨texts, ?_⟩
    rw [now] at later
    exact (congrArg (after · rest) now).trans later

theorem records_withTexts (st : Store) (texts : Dict String) (name : String) :
    (st.withTexts texts).records name = st.records name := rfl

theorem allRecords_withTexts (st : Store) (texts : Dict String) :
    (st.withTexts texts).allRecords = st.allRecords := rfl

theorem scan_withTexts (st : Store) (texts : Dict String) (collection : Option String) :
    (st.withTexts texts).source.scan collection = st.source.scan collection := by
  cases collection with
  | none => rw [scan_none, scan_none, allRecords_withTexts]
  | some name => rw [scan_some, scan_some, records_withTexts]

end Store

namespace Source

def offline (s : Source) (reason : Option String → String → StoreError) : Source :=
  { s with indexed := fun collection text => .error (reason collection text) }

theorem candidates_offline (s : Source) (reason : Option String → String → StoreError)
    (collection : Option String) (text : String) :
    (s.offline reason).candidates collection text = s.scan collection := rfl

end Source

namespace Engine

theorem search_of_same_candidates {s t : Source} {q : Request}
    (same : ∀ text, s.candidates q.collection text = t.candidates q.collection text)
    (e : Engine) : e.search s q = e.search t q := by
  simp only [search, same]

theorem search_withTexts (e : Engine) (st : Store) (q : Request) (texts : Dict String) :
    e.search (st.withTexts texts).source q = e.search st.source q := by
  refine search_of_same_candidates (fun text => ?_) e
  rw [Store.candidates_eq_scan, Store.candidates_eq_scan, Store.scan_withTexts]

/-- Neither the texts of a store nor what was written to them shows in an answer, and an index that
is always down gives the same page or the same error. -/
theorem search_ignores_index (e : Engine) (st : Store) (q : Request) :
    (∀ texts texts' : Dict String,
      e.search (st.withTexts texts).source q = e.search (st.withTexts texts').source q) ∧
    (∀ events, e.search (st.after events).source q = e.search st.source q) ∧
    ∀ reason, e.search (st.source.offline reason) q = e.search st.source q := by
  refine ⟨?_, ?_, ?_⟩
  · intro texts texts'
    rw [search_withTexts, search_withTexts]
  · intro events
    obtain ⟨texts, written⟩ := st.after_eq_withTexts events
    rw [written, search_withTexts]
  · intro reason
    refine search_of_same_candidates (fun text => ?_) e
    rw [Source.candidates_offline, Store.candidates_eq_scan]

end Engine

end Dossier
