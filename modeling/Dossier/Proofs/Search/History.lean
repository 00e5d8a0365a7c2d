import Dossier.Proofs.Json.Shape
import Dossier.Proofs.Search.Index
import Dossier.Proofs.Store.Distinct
import Dossier.Store.File

/-!
The life of a store, from the records that it is loaded with. Insertions add to the end of their
collections, and nothing else that happens to a store changes what it holds.
-/

namespace Dossier

inductive StoreEvent where
  | insert (collection : String) (r : Record)
  | index (event : IndexEvent)
  | search (e : Engine) (q : Request)
  | searchWithin (e : Engine) (collection id text : String)

def StoreEvent.adds (name : String) : StoreEvent → List Record
  | .insert collection r => if collection = name then [r] else []
  | .index _ | .search .. | .searchWithin .. => []

theorem StoreEvent.adds_eq_nil {event : StoreEvent} {name : String}
    (elsewhere : ∀ r, event ≠ .insert name r) : event.adds name = [] := by
  cases event with
  | insert collection r =>
    refine if_neg fun own => elsewhere r ?_
    rw [own]
  | index event => rfl
  | search e q => rfl
  | searchWithin e collection id text => rfl

/-- All that is inserted into a collection, in this order. -/
def insertedInto (name : String) (events : List StoreEvent) : List Record :=
  events.flatMap (StoreEvent.adds name)

def Record.heldBy (name : String) (r : Record) : Record := { r with collection := name }

namespace Store

def handle (st : Store) : StoreEvent → Store
  | .insert name r => st.insert name r
  | .index event => st.next event
  | .search .. | .searchWithin .. => st

def history (st : Store) (events : List StoreEvent) : Store := events.foldl handle st

variable {st : Store} {name : String}

theorem scope?_of_unknown (unknown : name ∉ st.collectionNames) : st.scope? (some name) = none :=
  Option.eq_none_iff_forall_ne_some.mpr fun rs found =>
    unknown (Dict.mem_keys_iff.mpr ⟨rs, found⟩)

theorem records_of_known (known : name ∈ st.collectionNames) :
    st.records name = .ok (st.held name) := by
  obtain ⟨rs, found⟩ := Dict.mem_keys_iff.mp known
  rw [records, held, found, Option.getD_some]

theorem records_of_unknown (unknown : name ∉ st.collectionNames) :
    st.records name = .error (.collectionNotFound name) :=
  scan_of_unknown (scope?_of_unknown unknown)

theorem records_of_mem_held {r : Record} (mem : r ∈ st.held name) :
    st.records name = .ok (st.held name) := by
  by_cases known : name ∈ st.collectionNames
  · exact records_of_known known
  · rw [held_of_unknown (scope?_of_unknown known)] at mem
    cases mem

theorem eq_held_of_records {rs : List Record} (listed : st.records name = .ok rs) :
    rs = st.held name := by
  by_cases known : name ∈ st.collectionNames
  · rw [records_of_known known] at listed
    exact (Except.ok.inj listed).symm
  · rw [records_of_unknown known] at listed
    cases listed

theorem held_handle (st : Store) (event : StoreEvent) (name : String) :
    (st.handle event).held name = st.held name ++ (event.adds name).map (Record.heldBy name) := by
  cases event with
  | insert collection r =>
    rw [handle, held_insert, StoreEvent.adds]
    by_cases own : collection = name
    · rw [if_pos own, if_pos own, own]
      rfl
    · rw [if_neg own, if_neg own, List.map_nil, List.append_nil]
  | index event =>
    -- Upserts and rebuilds, also those that fail, write texts and nothing else.
    obtain ⟨texts, now⟩ := st.next_eq_withTexts event
    rw [handle, now, StoreEvent.adds, List.map_nil, List.append_nil]
    rfl
  | search e q => exact (List.append_nil _).symm
  | searchWithin e collection id text => exact (List.append_nil _).symm

theorem mem_collectionNames_handle (st : Store) (event : StoreEvent) (name : String) :
    name ∈ (st.handle event).collectionNames ↔
      name ∈ st.collectionNames ∨ event.adds name ≠ [] := by
  cases event with
  | insert collection r =>
    have grown : name ∈ (st.insert collection r).collectionNames ↔
        collection = name ∨ name ∈ st.collectionNames :=
      st.collections.mem_keys_insert collection name _
    rw [handle, grown, StoreEvent.adds, or_comm]
    by_cases own : collection = name
    · simp [own]
    · simp [own]
  | index event =>
    obtain ⟨texts, now⟩ := st.next_eq_withTexts event
    rw [handle, now]
    exact (or_iff_left (not_not.mpr rfl)).symm
  | search e q => exact (or_iff_left (not_not.mpr rfl)).symm
  | searchWithin e collection id text => exact (or_iff_left (not_not.mpr rfl)).symm

theorem held_history (st : Store) (events : List StoreEvent) (name : String) :
    (st.history events).held name =
      st.held name ++ (insertedInto name events).map (Record.heldBy name) := by
  induction events generalizing st with
  | nil => exact (List.append_nil _).symm
  | cons event rest ih =>
    have step : st.history (event :: rest) = (st.handle event).history rest := rfl
    rw [step, ih, held_handle, insertedInto, insertedInto, List.flatMap_cons, List.map_append,
      List.append_assoc]

theorem mem_collectionNames_history (st : Store) (events : List StoreEvent) (name : String) :
    name ∈ (st.history events).collectionNames ↔
      name ∈ st.collectionNames ∨ insertedInto name events ≠ [] := by
  induction events generalizing st with
  | nil => exact (or_iff_left (not_not.mpr rfl)).symm
  | cons event rest ih =>
    have step : st.history (event :: rest) = (st.handle event).history rest := rfl
    rw [step, ih, mem_collectionNames_handle, insertedInto, insertedInto, List.flatMap_cons,
      or_assoc, ne_eq, ne_eq, ne_eq, ← not_and_or, ← List.append_eq_nil_iff]

theorem exists_ofCollections_of_ofFile? {text : String} (read : ofFile? text = .ok st) :
    ∃ loaded, st = ofCollections loaded := by
  have shaped : shape (Document.read text.toList).root = .ok st := Shape.eq_ok_of_readText read
  unfold shape at shaped
  generalize Shape.record _ _ _ = collections at shaped
  cases collections with
  | error f => cases shaped
  | ok loaded => exact ⟨loaded, (Except.ok.inj shaped).symm⟩

/-- The names and records of a store with this past. Each collection has the records it was loaded
with and then those inserted, under its own name whatever they said before. -/
structure HasGrown (st : Store) (loaded : Dict (List Record)) (events : List StoreEvent) :
    Prop where
  /-- The names increase strictly. -/
  ordered : st.collectionNames.Pairwise (· < ·)
  known : ∀ name,
    name ∈ st.collectionNames ↔ name ∈ loaded.keys ∨ insertedInto name events ≠ []
  listed : ∀ name ∈ st.collectionNames, st.records name =
    .ok (((loaded.find? name).getD [] ++ insertedInto name events).map (Record.heldBy name))
  unlisted : ∀ name ∉ st.collectionNames, st.records name = .error (.collectionNotFound name)
  addressed : ∀ name rs, st.records name = .ok rs → ∀ r ∈ rs, r.collection = name

theorem held_ofCollections (loaded : Dict (List Record)) (name : String) :
    (ofCollections loaded).held name =
      ((loaded.find? name).getD []).map (Record.heldBy name) := by
  have found : (ofCollections loaded).collections.find? name =
      (loaded.find? name).map (·.map (Record.heldBy name)) :=
    loaded.find?_mapEntries _ name
  rw [held, found]
  cases loaded.find? name with
  | none => rfl
  | some rs => rfl

theorem hasGrown_history (loaded : Dict (List Record)) (events : List StoreEvent) :
    ((ofCollections loaded).history events).HasGrown loaded events where
  ordered := Dict.ordered_keys _
  known name := by
    have first : (ofCollections loaded).collectionNames = loaded.keys := loaded.keys_mapEntries _
    rw [mem_collectionNames_history, first]
  listed name known := by
    rw [records_of_known known, held_history, held_ofCollections, List.map_append]
  unlisted _ := records_of_unknown
  addressed _ _ listed r mem := by
    rw [eq_held_of_records listed, held_history, held_ofCollections, ← List.map_append] at mem
    obtain ⟨before, -, rfl⟩ := List.mem_map.mp mem
    rfl

theorem records_handle {event : StoreEvent} (elsewhere : event.adds name = []) :
    (st.handle event).records name = st.records name := by
  by_cases known : name ∈ st.collectionNames
  · have still := (mem_collectionNames_handle st event name).mpr (.inl known)
    rw [records_of_known known, records_of_known still, held_handle, elsewhere, List.map_nil,
      List.append_nil]
  · have still : name ∉ (st.handle event).collectionNames := by
      rw [mem_collectionNames_handle, elsewhere]
      simp [known]
    rw [records_of_unknown known, records_of_unknown still]

end Store

end Dossier
