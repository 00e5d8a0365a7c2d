import Dossier.Near.Search

/-!
What the search for near misses reports: the candidates that it may report and whose best text the
policy accepts, each with that text.
-/

namespace Dossier.Near

variable {s : Similarity} {policy : Policy} {query : String} {candidates : List Record}
  {exclude : List (String × String)} {fields : List String} {h : Hit}

def core (query : String) : String := String.ofList (Text.trim query.toList)

def hitAt? (s : Similarity) (policy : Policy) (query : String) (exclude : List (String × String))
    (fields : List String) (c : Record × Nat) : Option Hit :=
  if exclude.contains c.1.key then none
  else do
    let b ← best? s query (fieldTexts c.1 fields)
    let score ← policy.score? b.similarity
    return ⟨c.2, score, b.path, b.value⟩

theorem hits_eq_filterMap (s : Similarity) (policy : Policy) (query : String)
    (candidates : List Record) (exclude : List (String × String)) (fields : List String) :
    hits s policy query candidates exclude fields =
      if (core query).isEmpty || !s.available then []
      else candidates.zipIdx.filterMap (hitAt? s policy (core query) exclude fields) := rfl

theorem hitAt?_eq_some_iff {c : Record × Nat} :
    hitAt? s policy query exclude fields c = some h ↔
      c.1.key ∉ exclude ∧ ∃ b, best? s query (fieldTexts c.1 fields) = some b ∧
        policy.score? b.similarity = some h.score ∧ h.index = c.2 ∧ h.path = b.path ∧
        h.value = b.value := by
  unfold hitAt?
  constructor
  · intro reported
    split at reported
    · cases reported
    · rename_i new
      obtain ⟨b, best, reported⟩ := Option.bind_eq_some_iff.mp reported
      obtain ⟨score, accepted, reported⟩ := Option.bind_eq_some_iff.mp reported
      cases reported
      exact ⟨by simpa using new, b, best, accepted, rfl, rfl, rfl⟩
  · rintro ⟨new, b, best, accepted, index, path, value⟩
    rw [if_neg (by simpa using new), best]
    simp [accepted, ← index, ← path, ← value]

theorem mem_hits_iff :
    h ∈ hits s policy query candidates exclude fields ↔
      core query ≠ "" ∧ s.available = true ∧ ∃ r b, candidates[h.index]? = some r ∧
        r.key ∉ exclude ∧ best? s (core query) (fieldTexts r fields) = some b ∧
        policy.score? b.similarity = some h.score ∧ h.path = b.path ∧ h.value = b.value := by
  rw [hits_eq_filterMap]
  split
  · rename_i idle
    rw [Bool.or_eq_true, String.isEmpty_iff, Bool.not_eq_true'] at idle
    constructor
    · intro mem
      cases mem
    · rintro ⟨asked, available, _⟩
      rcases idle with blank | off
      · exact absurd blank asked
      · rw [off] at available
        cases available
  · rename_i busy
    rw [Bool.or_eq_true, String.isEmpty_iff, Bool.not_eq_true', not_or, Bool.not_eq_false] at busy
    simp only [ne_eq, busy, not_false_eq_true, true_and, List.mem_filterMap, Prod.exists,
      List.mem_zipIdx_iff_getElem?, hitAt?_eq_some_iff]
    constructor
    · rintro ⟨r, index, stands, new, b, best, accepted, here, path, value⟩
      exact ⟨r, b, here ▸ stands, new, best, accepted, path, value⟩
    · rintro ⟨r, b, stands, new, best, accepted, path, value⟩
      exact ⟨r, h.index, stands, new, b, best, accepted, rfl, path, value⟩

theorem mem_of_best? {texts : List (String × String)} {b : Best}
    (best : best? s query texts = some b) : (b.path, b.value) ∈ texts := by
  have kept : ∀ b, best? s query texts = some b → (b.path, b.value) ∈ texts := by
    unfold best?
    apply List.foldlRecOn (motive := fun best : Option Best =>
      ∀ b, best = some b → (b.path, b.value) ∈ texts)
    · intro b none
      cases none
    · intro best kept text mem b chosen
      dsimp only at chosen
      split at chosen
      · split at chosen
        · cases chosen
          exact mem
        · exact kept b chosen
      · cases chosen
        exact mem
      · exact kept b chosen
  exact kept b best

theorem exists_occurrence_of_best? {r : Record} {b : Best}
    (best : best? s query (fieldTexts r fields) = some b) :
    ∃ field ∈ fields, ∃ c ∈ r.profile.occurrences field, c.1 = b.path ∧ b.value ∈ c.2.texts := by
  obtain ⟨c, meant, text⟩ := List.mem_flatMap.mp (mem_of_best? best)
  obtain ⟨value, listed, same⟩ := List.mem_map.mp text
  obtain ⟨field, searched, meant⟩ := List.mem_flatMap.mp meant
  obtain ⟨path, rfl⟩ := Prod.mk.inj same
  exact ⟨field, searched, c, meant, path, listed⟩

theorem Policy.least_le_of_score? {x y : Float} (accepted : policy.score? x = some y) :
    policy.least ≤ y := by
  rw [score?, Option.ite_none_left_eq_some] at accepted
  obtain ⟨enough, same⟩ := Option.ite_none_right_eq_some.mp accepted.2
  rw [← Option.some.inj same]
  exact enough

end Dossier.Near
