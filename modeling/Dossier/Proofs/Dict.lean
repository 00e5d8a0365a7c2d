import Dossier.Dict

/-!
A dictionary holds one value for each of its keys, and keeps it when entries of other keys are left
out.
-/

namespace Dossier

variable {α : Type}

theorem lookup?_of_mem {k : String} {v : α} {entries : List (String × α)} (h : Ordered entries)
    (mem : (k, v) ∈ entries) : lookup? k entries = some v := by
  induction entries with
  | nil => cases mem
  | cons e rest ih =>
    obtain ⟨above, tail⟩ := List.pairwise_cons.mp h
    rcases List.mem_cons.mp mem with rfl | mem
    · simp [lookup?]
    · have ne : e.1 ≠ k := String.ne_of_lt (above _ mem)
      have := ih tail mem
      simpa [lookup?, ne] using this

theorem lookup?_cons (k : String) (e : String × α) (rest : List (String × α)) :
    lookup? k (e :: rest) = if e.1 = k then some e.2 else lookup? k rest := by
  by_cases same : e.1 = k
  · simp [lookup?, same]
  · simp [lookup?, same]

theorem lookup?_filter {keep : String → Bool} {k : String} (kept : keep k = true)
    (entries : List (String × α)) :
    lookup? k (entries.filter fun e => keep e.1) = lookup? k entries := by
  induction entries with
  | nil => rfl
  | cons e rest ih =>
    rw [lookup?_cons, List.filter_cons]
    by_cases same : e.1 = k
    · rw [if_pos (same ▸ kept), lookup?_cons, if_pos same, if_pos same]
    · rw [if_neg same]
      split
      · rw [lookup?_cons, if_neg same, ih]
      · exact ih

theorem lookup?_insertEntry (k other : String) (v : α) (entries : List (String × α)) :
    lookup? other (insertEntry k v entries) =
      if k = other then some v else lookup? other entries := by
  induction entries with
  | nil => exact lookup?_cons other (k, v) []
  | cons e rest ih =>
    rw [insertEntry]
    by_cases below : k < e.1
    · rw [if_pos below, lookup?_cons]
    · rw [if_neg below]
      by_cases same : k = e.1
      · rw [if_pos same, lookup?_cons, lookup?_cons, ← same]
        split <;> rfl
      · rw [if_neg same, lookup?_cons, lookup?_cons, ih]
        by_cases first : e.1 = other
        · rw [if_pos first, if_pos first, if_neg fun equal => same (equal.trans first.symm)]
        · rw [if_neg first, if_neg first]

theorem map_insertEntry {β : Type} (f : String → α → β) (k : String) (v : α)
    (entries : List (String × α)) :
    (insertEntry k v entries).map (fun e => (e.1, f e.1 e.2)) =
      insertEntry k (f k v) (entries.map fun e => (e.1, f e.1 e.2)) := by
  induction entries with
  | nil => rfl
  | cons e rest ih =>
    rw [List.map_cons, insertEntry, insertEntry]
    split
    · rfl
    · split
      · rfl
      · rw [List.map_cons, ih]

theorem insertEntry_of_above {k : String} {v : α} {entries : List (String × α)}
    (above : ∀ e ∈ entries, e.1 < k) : insertEntry k v entries = entries ++ [(k, v)] := by
  induction entries with
  | nil => rfl
  | cons e rest ih =>
    obtain ⟨first, others⟩ := List.forall_mem_cons.mp above
    have notSmaller : ¬k < e.1 := fun below => String.lt_irrefl _ (String.lt_trans below first)
    have notEqual : k ≠ e.1 := (String.ne_of_lt first).symm
    rw [insertEntry, if_neg notSmaller, if_neg notEqual, ih others]
    rfl

theorem ofEntries_of_ordered {entries : List (String × α)} (ordered : Ordered entries) :
    ofEntries entries = entries := by
  have onward (rest done : List (String × α)) (ordered : Ordered (done ++ rest)) :
      rest.foldl (fun d e => insertEntry e.1 e.2 d) done = done ++ rest := by
    induction rest generalizing done with
    | nil => exact (List.append_nil done).symm
    | cons e rest ih =>
      have above : ∀ f ∈ done, f.1 < e.1 := fun f mem =>
        (List.pairwise_append.mp ordered).2.2 f mem e List.mem_cons_self
      rw [List.foldl_cons, insertEntry_of_above above, ih, List.append_assoc,
        List.singleton_append]
      rwa [List.append_assoc, List.singleton_append]
  exact onward entries [] ordered

namespace Dict

theorem ofList_entries (d : Dict α) : ofList d.entries = d := by
  rw [ofList, Dict.mk.injEq]
  exact ofEntries_of_ordered d.ordered

theorem find?_insert (d : Dict α) (k other : String) (v : α) :
    (d.insert k v).find? other = if k = other then some v else d.find? other :=
  lookup?_insertEntry k other v d.entries

theorem find?_eq_some_iff {d : Dict α} {k : String} {v : α} :
    d.find? k = some v ↔ (k, v) ∈ d.entries := by
  constructor
  · exact mem_of_lookup?
  · exact lookup?_of_mem d.ordered

theorem mem_keys_iff {d : Dict α} {k : String} : k ∈ d.keys ↔ ∃ v, d.find? k = some v := by
  rw [keys, List.mem_map]
  constructor
  · rintro ⟨e, mem, rfl⟩
    exact ⟨e.2, find?_eq_some_iff.mpr mem⟩
  · rintro ⟨v, found⟩
    exact ⟨(k, v), find?_eq_some_iff.mp found, rfl⟩

theorem mem_keys_insert (d : Dict α) (k other : String) (v : α) :
    other ∈ (d.insert k v).keys ↔ k = other ∨ other ∈ d.keys := by
  rw [mem_keys_iff, mem_keys_iff, find?_insert]
  by_cases same : k = other
  · simp [same]
  · simp [same]

theorem keys_mapEntries {β : Type} (f : String → α → β) (d : Dict α) :
    (d.mapEntries f).keys = d.keys := by
  rw [keys, keys, mapEntries, List.map_map]
  rfl

theorem find?_mapEntries {β : Type} (f : String → α → β) (d : Dict α) (k : String) :
    (d.mapEntries f).find? k = (d.find? k).map (f k) := by
  cases found : d.find? k with
  | some v =>
    have mem : (k, f k v) ∈ (d.mapEntries f).entries :=
      List.mem_map.mpr ⟨(k, v), find?_eq_some_iff.mp found, rfl⟩
    exact find?_eq_some_iff.mpr mem
  | none =>
    refine Option.eq_none_iff_forall_ne_some.mpr fun w stands => ?_
    have known : k ∈ (d.mapEntries f).keys := mem_keys_iff.mpr ⟨w, stands⟩
    rw [keys_mapEntries, mem_keys_iff, found] at known
    obtain ⟨v, equal⟩ := known
    cases equal

theorem mapEntries_insert {β : Type} (f : String → α → β) (d : Dict α) (k : String) (v : α) :
    (d.insert k v).mapEntries f = (d.mapEntries f).insert k (f k v) := by
  have entries := map_insertEntry f k v d.entries
  rw [mapEntries, insert, insert, Dict.mk.injEq]
  exact entries

theorem ordered_keys (d : Dict α) : d.keys.Pairwise (· < ·) :=
  List.pairwise_map.mpr d.ordered

def filterKeys (d : Dict α) (keep : String → Bool) : Dict α :=
  ⟨d.entries.filter fun e => keep e.1, d.ordered.filter _⟩

theorem keys_filterKeys (d : Dict α) (keep : String → Bool) :
    (d.filterKeys keep).keys = d.keys.filter keep := by
  rw [keys, keys, List.filter_map]
  rfl

theorem find?_filterKeys {d : Dict α} {keep : String → Bool} {k : String} (kept : keep k = true) :
    (d.filterKeys keep).find? k = d.find? k :=
  lookup?_filter kept d.entries

end Dict

end Dossier
