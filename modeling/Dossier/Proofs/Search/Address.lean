import Dossier.Proofs.Search.Exclusion
import Dossier.Proofs.Search.History
import Dossier.Proofs.Search.Within

/-!
Results name records of the store. Whatever has happened to a store since it was loaded, the address
on a result is the address of a record there, and whoever looks it up is given the first record that
has it.
-/

namespace Dossier

namespace Store

def Addresses (st : Store) (s : SearchResult) : Prop :=
  ∃ before r after, st.records s.collection = .ok (before ++ r :: after) ∧
    (∀ earlier ∈ before, earlier.id ≠ s.id) ∧ r.id = s.id ∧ r.collection = s.collection ∧
    st.record? s.collection s.id = .ok (some r)

variable {st : Store} {r : Record} {s : SearchResult} {name : String}

theorem mem_held_of_scope? {collection : Option String} {scope : List Record}
    (inScope : st.scope? collection = some scope) (mem : r ∈ scope) : r ∈ st.held r.collection := by
  have own {name : String} {rs : List Record} (found : st.scope? (some name) = some rs)
      (mem : r ∈ rs) : r ∈ st.held r.collection := by
    rw [← held_of_scope? found] at mem
    rwa [collection_of_mem_held mem]
  cases collection with
  | some name => exact own inScope mem
  | none =>
    cases inScope
    obtain ⟨e, entry, mem⟩ := List.mem_flatMap.mp mem
    exact own (Dict.find?_eq_some_iff.mpr entry) mem

theorem mem_held_of_record? {id : String} (found : st.record? name id = .ok (some r)) :
    r ∈ st.held name := by
  cases listed : st.records name with
  | error f =>
    rw [record?, listed] at found
    cases found
  | ok rs =>
    rw [record?_of_records listed] at found
    rw [← eq_held_of_records listed]
    exact List.mem_of_find?_eq_some (Except.ok.inj found)

/-- A result leads to a record as soon as any record is kept under its address. -/
theorem addresses_of_key (mem : r ∈ st.held r.collection) (key : s.key = r.key) :
    st.Addresses s := by
  have collection : s.collection = r.collection := congrArg Prod.fst key
  have id : s.id = r.id := congrArg Prod.snd key
  have listed := records_of_mem_held mem
  have kept : ((st.held r.collection).find? (·.id = r.id)).isSome :=
    List.find?_isSome.mpr ⟨r, mem, decide_eq_true rfl⟩
  obtain ⟨first, found⟩ := Option.isSome_iff_exists.mp kept
  obtain ⟨same, before, after, split, earlier⟩ := List.find?_eq_some_iff_append.mp found
  have inFirst : first.collection = r.collection :=
    collection_of_mem_held (List.mem_of_find?_eq_some found)
  refine ⟨before, first, after, ?_, ?_, ?_, ?_, ?_⟩
  · rw [collection, listed, split]
  · intro other mem
    rw [id]
    simpa using earlier other mem
  · rw [id]
    exact of_decide_eq_true same
  · rw [inFirst, collection]
  · rw [record?, collection, id, listed, Except.map, found]

end Store

namespace Engine

variable {e : Engine} {st : Store}

theorem addresses_of_search {q : Request} {page : Page} {s : SearchResult}
    (answered : e.search st.source q = .ok page) (mem : s ∈ page.results) : st.Addresses s := by
  cases asked : q.expr? with
  | none =>
    rw [search_of_nothing _ asked] at answered
    cases answered
    cases mem
  | some expr =>
    obtain ⟨scope, inScope⟩ := exists_scope_of_search asked answered
    -- Own results and near misses alike have the key of a record in question.
    rcases origin_of_mem_listing (mem_listing_of_mem_page asked inScope answered mem) with
      ⟨r, found, rfl⟩ | ⟨-, r, candidate, -, h, x, -, rfl⟩
    · exact Store.addresses_of_key
        (Store.mem_held_of_scope? inScope (List.mem_filter.mp found).1) rfl
    · exact Store.addresses_of_key (Store.mem_held_of_scope? inScope candidate) rfl

theorem addresses_of_searchWithin {collection id text : String} {results : List SearchResult}
    {s : SearchResult} (answered : e.searchWithin st.source collection id text = .ok results)
    (mem : s ∈ results) : st.Addresses s := by
  obtain ⟨-, r, -, found, leaf, -, rfl⟩ := origin_of_mem_searchWithin answered mem
  have held : r ∈ st.held collection := Store.mem_held_of_record? found
  have own : r ∈ st.held r.collection := (Store.collection_of_mem_held held).symm ▸ held
  exact Store.addresses_of_key own rfl

/-- In every store that was loaded and used, whatever happens next changes a collection only by
inserting into it, and every result of a search leads to its record. -/
theorem results_address_records (loaded : Dict (List Record)) (events : List StoreEvent) :
    let st := (Store.ofCollections loaded).history events
    st.HasGrown loaded events ∧
      (∀ event name, (∀ r, event ≠ .insert name r) →
        (st.handle event).records name = st.records name) ∧
      ∀ e : Engine,
        (∀ q page, e.search st.source q = .ok page → ∀ s ∈ page.results, st.Addresses s) ∧
        ∀ collection id text results,
          e.searchWithin st.source collection id text = .ok results →
            ∀ s ∈ results, st.Addresses s := by
  intro st
  refine ⟨Store.hasGrown_history loaded events, ?_, fun e => ⟨?_, ?_⟩⟩
  · intro event name elsewhere
    exact Store.records_handle (StoreEvent.adds_eq_nil elsewhere)
  · intro q page answered s mem
    exact addresses_of_search answered mem
  · intro collection id text results answered s mem
    exact addresses_of_searchWithin answered mem

/-- An id that is used twice: the result is made from the second record, and its address leads to
the first. -/
theorem results_address_records_repeated :
    let e : Engine := ⟨.default, .off, .default, 50⟩
    let record (collection name : String) : Record := ⟨collection, "a", "profile",
      ⟨[("core", .mapping [("name", .scalar (.text name))])], rfl⟩, none⟩
    let st := (Store.ofCollections (.ofList [("case-1", [record "elsewhere" "Ann"])])).history
      [.insert "case-1" (record "" "Anna")]
    let q := { Request.ofText "anna" with collection := some "case-1" }
    ∃ page s, e.search st.source q = .ok page ∧ s ∈ page.results ∧
      s.highlights.find? "core.name" = some ["**Anna**"] ∧ st.Addresses s ∧
      st.record? s.collection s.id = .ok (some (record "case-1" "Ann")) := by
  intro e record st q
  let expr : Query.Expr := .term ⟨none, "anna", false⟩
  let ann := record "case-1" "Ann"
  let anna := record "case-1" "Anna"
  have asked : q.expr? = some expr := by decide +kernel
  have inScope : st.scope? q.collection = some [ann, anna] := by
    simp [st, q, ann, anna, record, Store.scope?, Store.history, Store.handle, Store.insert,
      Store.ofCollections, Dict.ofList, Dict.mapEntries, Dict.update, Dict.find?, Dict.insert,
      ofEntries, insertEntry, lookup?]
  have one : e.found q expr [ann, anna] = [anna] := by
    have missed : ¬(allows q ann && (e.evaluation q expr ann).matched) = true := by decide +kernel
    have matched : (allows q anna && (e.evaluation q expr anna).matched) = true := by
      decide +kernel
    rw [found, List.filter_cons, if_neg missed, List.filter_cons, if_pos matched, List.filter_nil]
  have listing : e.listing q expr [ann, anna] = [e.ownResult q expr anna] := by
    rw [listing_of_exact rfl, one, List.map_singleton, SearchResult.ranked,
      List.mergeSort_singleton]
  have answered := search_of_scope (e := e) asked inScope
  rw [listing] at answered
  obtain ⟨-, -, leads⟩ := results_address_records (.ofList [("case-1", [record "elsewhere" "Ann"])])
    [.insert "case-1" (record "" "Anna")]
  have mem : e.ownResult q expr anna ∈ slice [e.ownResult q expr anna] q.offset q.limit :=
    List.mem_singleton.mpr rfl
  have first : st.record? "case-1" "a" = .ok (some ann) := by
    have listed : st.records "case-1" = .ok [ann, anna] := Store.scan_of_scope? inScope
    rw [Store.record?, listed]
    rfl
  exact ⟨_, _, answered, mem, by decide +kernel, (leads e).1 q _ answered _ mem, first⟩

end Engine

end Dossier
