import Dossier.Proofs.Store.Scope
import Mathlib.Data.List.Nodup

/-!
Stores whose records can be told apart. A record goes into its collection whatever is there, so that
records keep addresses of their own just as long as every insertion brings a new id.
-/

namespace Dossier.Store

def held (st : Store) (name : String) : List Record := (st.collections.find? name).getD []

def HasDistinctIds (st : Store) : Prop := ∀ name, ((st.held name).map (·.id)).Nodup

def insertAll (st : Store) (batch : List (String × Record)) : Store :=
  batch.foldl (fun st c => st.insert c.1 c.2) st

/-- At its insertion the id of every record is new in the collection. -/
def InsertsNew (st : Store) : List (String × Record) → Prop
  | [] => True
  | c :: rest => c.2.id ∉ (st.held c.1).map (·.id) ∧ (st.insert c.1 c.2).InsertsNew rest

variable {st : Store} {name : String} {scope : List Record}

theorem held_of_scope? (inScope : st.scope? (some name) = some scope) : st.held name = scope :=
  congrArg (Option.getD · []) inScope

theorem held_of_unknown (unknown : st.scope? (some name) = none) : st.held name = [] :=
  congrArg (Option.getD · []) unknown

theorem held_insert (st : Store) (name other : String) (r : Record) :
    (st.insert name r).held other =
      if name = other then st.held name ++ [{ r with collection := name }] else st.held other := by
  change ((st.collections.insert name _).find? other).getD [] = _
  rw [Dict.find?_insert]
  split <;> rfl

theorem collection_of_mem_held {r : Record} (mem : r ∈ st.held name) : r.collection = name := by
  unfold held at mem
  cases found : st.collections.find? name with
  | none =>
    rw [found] at mem
    cases mem
  | some rs =>
    rw [found] at mem
    exact st.addressed (name, rs) (Dict.find?_eq_some_iff.mp found) r mem

theorem hasDistinctIds_insert (st : Store) (name : String) (r : Record) :
    (st.insert name r).HasDistinctIds ↔
      st.HasDistinctIds ∧ r.id ∉ (st.held name).map (·.id) := by
  have grown : (((st.insert name r).held name).map (·.id)).Nodup ↔
      ((st.held name).map (·.id)).Nodup ∧ r.id ∉ (st.held name).map (·.id) := by
    rw [held_insert, if_pos rfl, List.map_append, List.map_singleton, List.nodup_append_comm,
      List.singleton_append, List.nodup_cons, and_comm]
  have others {other : String} (ne : name ≠ other) :
      (st.insert name r).held other = st.held other := by
    rw [held_insert, if_neg ne]
  constructor
  · intro distinct
    obtain ⟨before, new⟩ := grown.mp (distinct name)
    refine ⟨fun other => ?_, new⟩
    by_cases same : name = other
    · rw [← same]
      exact before
    · rw [← others same]
      exact distinct other
  · rintro ⟨distinct, new⟩ other
    by_cases same : name = other
    · rw [← same]
      exact grown.mpr ⟨distinct name, new⟩
    · rw [others same]
      exact distinct other

theorem hasDistinctIds_insertAll (st : Store) (batch : List (String × Record)) :
    (st.insertAll batch).HasDistinctIds ↔ st.HasDistinctIds ∧ st.InsertsNew batch := by
  induction batch generalizing st with
  | nil => exact (and_iff_left trivial).symm
  | cons c rest ih =>
    have step : st.insertAll (c :: rest) = (st.insert c.1 c.2).insertAll rest := rfl
    rw [step, ih, hasDistinctIds_insert, InsertsNew, and_assoc]

theorem nodup_keys_scope (distinct : st.HasDistinctIds) {collection : Option String}
    (inScope : st.scope? collection = some scope) : (scope.map (·.key)).Nodup := by
  have one (rs : List Record) (ids : (rs.map (·.id)).Nodup) : (rs.map (·.key)).Nodup := by
    refine List.Nodup.of_map Prod.snd ?_
    rw [List.map_map]
    exact ids
  have held {e : String × List Record} (mem : e ∈ st.collections.entries) : st.held e.1 = e.2 := by
    have found : st.collections.find? e.1 = some e.2 := Dict.find?_eq_some_iff.mpr mem
    rw [Store.held, found, Option.getD_some]
  cases collection with
  | some name =>
    have found : st.held name = scope := by
      change st.collections.find? name = some scope at inScope
      rw [Store.held, inScope, Option.getD_some]
    exact one scope (found ▸ distinct name)
  | none =>
    cases inScope
    rw [List.map_flatMap, List.nodup_flatMap]
    constructor
    · intro e mem
      exact one e.2 (held mem ▸ distinct e.1)
    · refine List.Pairwise.imp_of_mem ?_ st.collections.ordered
      intro a b ha hb before key left right
      -- A key of two collections would have both names.
      obtain ⟨r, inA, rfl⟩ := List.mem_map.mp left
      obtain ⟨s, inB, same⟩ := List.mem_map.mp right
      have names : s.collection = r.collection := congrArg Prod.fst same
      rw [st.addressed a ha r inA, st.addressed b hb s inB] at names
      exact String.ne_of_lt before names.symm

theorem nodup_ids_of_keys (keys : ((st.held name).map (·.key)).Nodup) :
    ((st.held name).map (·.id)).Nodup := by
  have addressed : (st.held name).map (·.key) = ((st.held name).map (·.id)).map (name, ·) := by
    rw [List.map_map]
    refine List.map_congr_left fun r mem => ?_
    rw [Record.key, collection_of_mem_held mem]
    rfl
  rw [addressed] at keys
  exact keys.of_map

end Dossier.Store
