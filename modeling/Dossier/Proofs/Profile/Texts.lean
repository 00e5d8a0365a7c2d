import Dossier.Profile.Record
import Dossier.Proofs.Profile.Occurrence

/-!
The texts of a profile. Both traversals of a value list the same texts, and whatever a path leads to
has no texts of its own: they are among those of the whole.
-/

namespace Dossier

theorem Scalar.text?_eq_none_iff {s : Scalar} : s.text? = none ↔ s = .null := by
  cases s with
  | null => exact iff_of_true rfl rfl
  | bool | integer | float | text => exact iff_of_false nofun nofun

namespace Value

mutual

theorem filterMap_leaves (path : String) (v : Value) :
    (v.leaves path).filterMap (·.2.text?) = v.texts := by
  cases v with
  | scalar s =>
    rw [leaves, texts]
    cases text : s.text? with
    | none => simp [text]
    | some t => simp [text]
  | sequence items => exact filterMap_itemLeaves path 0 items
  | mapping entries => exact filterMap_entryLeaves path entries

theorem filterMap_itemLeaves (path : String) (i : Nat) (items : List Value) :
    (itemLeaves path i items).filterMap (·.2.text?) = itemTexts items := by
  cases items with
  | nil => rfl
  | cons v rest =>
    rw [itemLeaves, itemTexts, List.filterMap_append, filterMap_leaves, filterMap_itemLeaves]

theorem filterMap_entryLeaves (path : String) (entries : List (String × Value)) :
    (entryLeaves path entries).filterMap (·.2.text?) = entryTexts entries := by
  cases entries with
  | nil => rfl
  | cons e rest =>
    rw [entryLeaves, entryTexts, List.filterMap_append, filterMap_leaves, filterMap_entryLeaves]

end

variable {v w : Value} {t : String}

theorem mem_itemTexts {items : List Value} (mem : v ∈ items) (inside : t ∈ v.texts) :
    t ∈ itemTexts items := by
  induction items with
  | nil => cases mem
  | cons first rest ih =>
    rw [itemTexts, List.mem_append]
    rcases List.mem_cons.mp mem with rfl | later
    · exact .inl inside
    · exact .inr (ih later)

theorem mem_entryTexts {entries : List (String × Value)} {key : String} (mem : (key, v) ∈ entries)
    (inside : t ∈ v.texts) : t ∈ entryTexts entries := by
  induction entries with
  | nil => cases mem
  | cons first rest ih =>
    rw [entryTexts, List.mem_append]
    rcases List.mem_cons.mp mem with rfl | later
    · exact .inl inside
    · exact .inr (ih later)

theorem mem_texts_of_step? {segment : String} (step : v.step? segment = some w)
    (inside : t ∈ w.texts) : t ∈ v.texts := by
  cases v with
  | scalar s => cases step
  | sequence items =>
    obtain ⟨i, -, item⟩ := Option.bind_eq_some_iff.mp step
    exact mem_itemTexts (List.mem_of_getElem? item) inside
  | mapping entries => exact mem_entryTexts (mem_of_lookup? step) inside

theorem mem_texts_of_walk? {segments : List String} (walk : v.walk? segments = some w)
    (inside : t ∈ w.texts) : t ∈ v.texts := by
  induction segments generalizing v with
  | nil =>
    cases walk
    exact inside
  | cons segment rest ih =>
    obtain ⟨next, step, later⟩ := Option.bind_eq_some_iff.mp walk
    exact mem_texts_of_step? step (ih later)

end Value

namespace Profile

def texts (p : Profile) : List String := p.sections.flatMap (·.2.texts)

variable {p : Profile} {t : String}

theorem mem_texts_of_section {name : String} {v w : Value} {segments : List String}
    (known : (name, v) ∈ p.sections) (walk : v.walk? segments = some w) (inside : t ∈ w.texts) :
    t ∈ p.texts :=
  List.mem_flatMap.mpr ⟨(name, v), known, Value.mem_texts_of_walk? walk inside⟩

theorem mem_texts_of_get? {path : String} {w : Value} (found : p.get? path = some w)
    (inside : t ∈ w.texts) : t ∈ p.texts := by
  unfold get? at found
  split at found
  · cases found
  · split at found
    · cases found
    · obtain ⟨v, known, walk⟩ := Option.bind_eq_some_iff.mp found
      exact mem_texts_of_section (mem_of_lookup? known) walk inside

theorem mem_texts_of_occurrences {field : String} {c : String × Value}
    (mem : c ∈ p.occurrences field) (inside : t ∈ c.2.texts) : t ∈ p.texts := by
  rcases cases_of_mem_occurrences mem with ⟨found, -⟩ | ⟨-, e, known, below⟩
  · exact mem_texts_of_get? found inside
  · obtain ⟨-, walk, -⟩ := below?_eq_some_iff.mp below
    exact mem_texts_of_section known walk inside

theorem mem_texts_of_leaves {path : String} {s : Scalar} (leaf : (path, s) ∈ p.leaves)
    (inside : t ∈ (Value.scalar s).texts) : t ∈ p.texts := by
  obtain ⟨⟨name, v⟩, known, leaf⟩ := List.mem_flatMap.mp leaf
  have text : s.text? = some t := Option.mem_toList.mp inside
  have listed : t ∈ v.texts := by
    rw [← Value.filterMap_leaves name v]
    exact List.mem_filterMap.mpr ⟨(path, s), leaf, text⟩
  exact List.mem_flatMap.mpr ⟨(name, v), known, listed⟩

theorem map_leafTexts (p : Profile) : p.leafTexts.map (·.2) = p.texts := by
  have texts : p.leafTexts.map (·.2) = p.leaves.filterMap (·.2.text?) := by
    rw [leafTexts, List.map_filterMap]
    congr 1
    funext leaf
    obtain ⟨path, s⟩ := leaf
    cases text : s.text? with
    | none => simp [text]
    | some t => simp [text]
  rw [texts, leaves, List.filterMap_flatMap, Profile.texts]
  congr 1
  funext e
  exact Value.filterMap_leaves e.1 e.2

/-- A value is listed alike with the paths of its leaves and without them. Whatever path it has, the
texts of its leaves are the texts of the value, in order, and only null has no text. So the leaves
of a record have the texts of its sections, one section after the other. -/
theorem traversals_list_same_texts :
    (∀ s : Scalar, s.text? = none ↔ s = .null) ∧
    (∀ (v : Value) (path : String),
      (v.leaves path).filterMap (fun leaf => leaf.2.text?) = v.texts) ∧
    ∀ r : Record, r.profile.leafTexts.map (fun leaf => leaf.2) =
      r.profile.sections.flatMap fun e => e.2.texts := by
  refine ⟨fun s => Scalar.text?_eq_none_iff, fun v path => Value.filterMap_leaves path v, ?_⟩
  intro r
  exact map_leafTexts r.profile

end Profile

end Dossier
