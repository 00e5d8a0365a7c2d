import Dossier.Dict
import Dossier.Store.SearchText
import Dossier.Store.Source

/-!
The store: records by collection, and a table of search texts by id. The table serves as the index
once it covers every record in question.
-/

namespace Dossier

/-- Every record carries the name of the collection that holds it. -/
def Addressed (collections : Dict (List Record)) : Prop :=
  ∀ e ∈ collections.entries, ∀ r ∈ e.2, r.collection = e.1

structure Store where
  collections : Dict (List Record)
  addressed : Addressed collections
  texts : Dict String

namespace Store

def empty : Store := ⟨.empty, fun _ h => absurd h List.not_mem_nil, .empty⟩

def ofCollections (collections : Dict (List Record)) : Store where
  collections := collections.mapEntries fun name rs => rs.map fun r => { r with collection := name }
  addressed := by
    intro e he r hr
    obtain ⟨f, _, rfl⟩ := List.mem_map.1 he
    obtain ⟨s, _, rfl⟩ := List.mem_map.1 hr
    rfl
  texts := .empty

theorem addressed_update {collections : Dict (List Record)} (h : Addressed collections)
    (name : String) (r : Record) :
    Addressed (collections.update name [] (· ++ [{ r with collection := name }])) := by
  intro e he s hs
  rcases mem_insertEntry he with rfl | he
  · rcases List.mem_append.1 hs with hs | hs
    · cases found : collections.find? name with
      | none => simp [found] at hs
      | some rs =>
        rw [found] at hs
        exact h _ (mem_of_lookup? found) s hs
    · rw [List.mem_singleton.1 hs]
  · exact h e he s hs

def insert (s : Store) (name : String) (r : Record) : Store :=
  ⟨s.collections.update name [] (· ++ [{ r with collection := name }]),
    addressed_update s.addressed name r, s.texts⟩

def collectionNames (s : Store) : List String := s.collections.keys

def records (s : Store) (name : String) : Except StoreError (List Record) :=
  match s.collections.find? name with
  | some rs => .ok rs
  | none => .error (.collectionNotFound name)

/-- The first record of a collection with the given id. -/
def record? (s : Store) (name id : String) : Except StoreError (Option Record) :=
  (s.records name).map (·.find? (·.id = id))

def allRecords (s : Store) : List Record := s.collections.entries.flatMap (·.2)

def upsert (s : Store) (id text : String) : Store := { s with texts := s.texts.insert id text }

def searchText? (s : Store) (id : String) : Option String := s.texts.find? id

def indexHits (s : Store) (records : List Record) (query : String) :
    Except StoreError (List IndexHit) :=
  let indexed := records.countP fun r => s.texts.contains r.id
  if indexed = 0 || indexed < records.length then
    .error (.indexUnavailable
      (toString indexed ++ " of " ++ toString records.length ++ " records indexed"))
  else
    let words := SearchText.wordsOf query
    .ok (records.map fun r => ⟨SearchText.share words ((s.searchText? r.id).getD ""), r⟩)

def indexed (s : Store) (collection : Option String) (query : String) :
    Except StoreError (List IndexHit) :=
  match collection with
  | some name => do s.indexHits (← s.records name) query
  | none => s.indexHits s.allRecords query

def source (s : Store) : Source where
  collections := .ok s.collectionNames
  records := s.records
  record? := s.record?
  indexed := s.indexed

end Store

end Dossier
