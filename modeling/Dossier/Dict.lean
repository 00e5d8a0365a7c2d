/-!
Dictionaries: entries in strictly increasing order of their keys, which are compared by code
points. Inserting replaces the entry of an equal key, and keeps the order.
-/

namespace Dossier

def Ordered {α : Type} (entries : List (String × α)) : Prop :=
  entries.Pairwise fun a b => a.1 < b.1

instance {α : Type} (entries : List (String × α)) : Decidable (Ordered entries) :=
  inferInstanceAs (Decidable (entries.Pairwise _))

def insertEntry {α : Type} (k : String) (v : α) : List (String × α) → List (String × α)
  | [] => [(k, v)]
  | e :: rest =>
    if k < e.1 then (k, v) :: e :: rest
    else if k = e.1 then (k, v) :: rest
    else e :: insertEntry k v rest

/-- Of two entries with one key the later stays. -/
def ofEntries {α : Type} (entries : List (String × α)) : List (String × α) :=
  entries.foldl (fun d e => insertEntry e.1 e.2 d) []

def lookup? {α : Type} (k : String) (entries : List (String × α)) : Option α :=
  (entries.find? (·.1 = k)).map (·.2)

theorem mem_insertEntry {α : Type} {k : String} {v : α} {e : String × α} :
    {d : List (String × α)} → e ∈ insertEntry k v d → e = (k, v) ∨ e ∈ d
  | [], h => by simpa [insertEntry] using h
  | f :: rest, h => by
    unfold insertEntry at h
    split at h
    · simpa using h
    · split at h
      · rcases List.mem_cons.1 h with h | h
        · exact .inl h
        · exact .inr (List.mem_cons_of_mem _ h)
      · rcases List.mem_cons.1 h with h | h
        · exact .inr (h ▸ List.mem_cons_self)
        · exact (mem_insertEntry h).imp id (List.mem_cons_of_mem _)

theorem ordered_insertEntry {α : Type} (k : String) (v : α) :
    {d : List (String × α)} → Ordered d → Ordered (insertEntry k v d)
  | [], _ => List.pairwise_singleton _ _
  | e :: rest, h => by
    have ⟨above, tail⟩ := List.pairwise_cons.1 h
    unfold insertEntry
    split
    · rename_i below
      refine List.pairwise_cons.2 ⟨fun f hf => ?_, h⟩
      rcases List.mem_cons.1 hf with rfl | hf
      · exact below
      · exact String.lt_trans below (above f hf)
    · split
      · rename_i equal
        exact List.pairwise_cons.2 ⟨fun f hf => equal ▸ above f hf, tail⟩
      · rename_i notBelow notEqual
        refine List.pairwise_cons.2 ⟨fun f hf => ?_, ordered_insertEntry k v tail⟩
        rcases mem_insertEntry hf with rfl | hf
        · refine String.not_le.1 fun le => notEqual ?_
          exact String.le_antisymm le (String.not_lt.1 notBelow)
        · exact above f hf

theorem ordered_foldl_insertEntry {α : Type} (entries : List (String × α)) :
    ∀ {d : List (String × α)}, Ordered d →
      Ordered (entries.foldl (fun d (e : String × α) => insertEntry e.1 e.2 d) d) := by
  induction entries with
  | nil => exact fun h => h
  | cons e rest ih => exact fun h => ih (ordered_insertEntry e.1 e.2 h)

theorem ordered_ofEntries {α : Type} (entries : List (String × α)) : Ordered (ofEntries entries) :=
  ordered_foldl_insertEntry entries List.Pairwise.nil

theorem mem_foldl_insertEntry {α : Type} {entries : List (String × α)} {e : String × α} :
    ∀ {d : List (String × α)},
      e ∈ entries.foldl (fun d (e : String × α) => insertEntry e.1 e.2 d) d →
        e ∈ entries ∨ e ∈ d := by
  induction entries with
  | nil => exact fun h => .inr h
  | cons f rest ih =>
    intro d h
    rcases ih h with h | h
    · exact .inl (List.mem_cons_of_mem _ h)
    · exact (mem_insertEntry h).imp (fun (eq : e = f) => eq ▸ List.mem_cons_self) id

theorem mem_ofEntries {α : Type} {entries : List (String × α)} {e : String × α}
    (h : e ∈ ofEntries entries) : e ∈ entries :=
  (mem_foldl_insertEntry h).resolve_right List.not_mem_nil

theorem mem_of_lookup? {α : Type} {k : String} {v : α} {entries : List (String × α)}
    (h : lookup? k entries = some v) : (k, v) ∈ entries := by
  obtain ⟨e, found, rfl⟩ := Option.map_eq_some_iff.1 h
  have eq : e.1 = k := by simpa using List.find?_some found
  exact eq ▸ List.mem_of_find?_eq_some found

structure Dict (α : Type) where
  entries : List (String × α)
  ordered : Ordered entries
  deriving DecidableEq

namespace Dict

variable {α : Type}

def empty : Dict α := ⟨[], List.Pairwise.nil⟩

def insert (d : Dict α) (k : String) (v : α) : Dict α :=
  ⟨insertEntry k v d.entries, ordered_insertEntry k v d.ordered⟩

def ofList (entries : List (String × α)) : Dict α := ⟨ofEntries entries, ordered_ofEntries entries⟩

def find? (d : Dict α) (k : String) : Option α := lookup? k d.entries

def contains (d : Dict α) (k : String) : Bool := (d.find? k).isSome

def keys (d : Dict α) : List String := d.entries.map (·.1)

def update (d : Dict α) (k : String) (initial : α) (f : α → α) : Dict α :=
  d.insert k (f ((d.find? k).getD initial))

def mapEntries {β : Type} (f : String → α → β) (d : Dict α) : Dict β :=
  ⟨d.entries.map fun e => (e.1, f e.1 e.2), by
    have h := d.ordered
    unfold Ordered at *
    simpa [List.pairwise_map] using h⟩

example : (ofList [("b", 1), ("a", 2), ("b", 3)]).entries = [("a", 2), ("b", 3)] := by decide

end Dict

end Dossier
