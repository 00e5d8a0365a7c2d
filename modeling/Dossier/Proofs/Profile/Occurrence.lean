import Dossier.Profile.Lookup

/-!
What a field means in a profile: the value at its path, or, where the path leads nowhere, what its
segments lead to below each section that is a mapping.
-/

namespace Dossier.Profile

variable {p : Profile} {field : String} {v : Value} {c : String × Value}

theorem occurrences_of_get? (found : p.get? field = some v) :
    p.occurrences field = [(field, v)] := by
  rw [occurrences, found]

def below? (field : String) (e : String × Value) : Option (String × Value) :=
  if e.2.isMapping then (e.2.walk? (segments field)).map fun v => (e.1 ++ "." ++ field, v)
  else none

theorem below?_eq_some_iff {e : String × Value} :
    below? field e = some c ↔ e.2.isMapping = true ∧ e.2.walk? (segments field) = some c.2 ∧
      c.1 = e.1 ++ "." ++ field := by
  rw [below?, Option.ite_none_right_eq_some, Option.map_eq_some_iff]
  refine and_congr_right fun _ => ?_
  constructor
  · rintro ⟨v, walk, rfl⟩
    exact ⟨walk, rfl⟩
  · rintro ⟨walk, here⟩
    exact ⟨c.2, walk, Prod.ext here.symm rfl⟩

theorem occurrences_of_absent (absent : p.get? field = none) :
    p.occurrences field = if field.isEmpty then [] else p.sections.filterMap (below? field) := by
  rw [occurrences, absent]
  rfl

theorem cases_of_mem_occurrences (mem : c ∈ p.occurrences field) :
    p.get? field = some c.2 ∧ c.1 = field ∨
      p.get? field = none ∧ ∃ e ∈ p.sections, below? field e = some c := by
  cases found : p.get? field with
  | some v =>
    rw [occurrences_of_get? found, List.mem_singleton] at mem
    exact .inl ⟨congrArg some (congrArg Prod.snd mem).symm, congrArg Prod.fst mem⟩
  | none =>
    rw [occurrences_of_absent found] at mem
    split at mem
    · cases mem
    · exact .inr ⟨rfl, List.mem_filterMap.mp mem⟩

end Dossier.Profile
