import Dossier.Proofs.Profile.Address
import Dossier.Proofs.Profile.Occurrence

/-!
Reported paths, read as fields again. A field that is no path of the profile is tried below every
section, and what it means there is reported under the name of the section and the field. As long as
the names of the sections can be written into a path, such a path leads to the value that it was
reported with, and as a field it means nothing else.
-/

namespace Dossier.Profile

variable {p : Profile} {field path : String} {v : Value} {c : String × Value}

/-- The name of each section is one segment of a path, and not an empty one. What is inside the
sections may have any keys. -/
structure IsNamed (p : Profile) : Prop where
  filled : ∀ e ∈ p.sections, e.1 ≠ ""
  plain : ∀ e ∈ p.sections, '.' ∉ e.1.toList

/-- The value stands at the path, and the path means nothing else when it is read as a field. -/
structure LeadsTo (p : Profile) (path : String) (v : Value) : Prop where
  found : p.get? path = some v
  only : p.occurrences path = [(path, v)]

theorem leadsTo_of_get? (found : p.get? path = some v) : p.LeadsTo path v :=
  ⟨found, occurrences_of_get? found⟩

theorem IsNamed.get?_below {e : String × Value} (named : p.IsNamed) (known : e ∈ p.sections)
    (field : String) : p.get? (e.1 ++ "." ++ field) = e.2.walk? (segments field) := by
  have split : segments (e.1 ++ "." ++ field) = e.1 :: segments field := by
    rw [segments_append_dot, segments_of_not_mem (named.plain e known), List.singleton_append]
  exact get?_of_segments split (named.filled e known) known

/-- Whatever a field means, the path that is reported for it leads there. -/
theorem IsNamed.leadsTo (named : p.IsNamed) (mem : c ∈ p.occurrences field) :
    p.LeadsTo c.1 c.2 := by
  apply leadsTo_of_get?
  rcases cases_of_mem_occurrences mem with ⟨found, here⟩ | ⟨-, e, known, below⟩
  · rw [here, found]
  · obtain ⟨-, walk, here⟩ := below?_eq_some_iff.mp below
    rw [here, named.get?_below known, walk]

-- With a dot in the name of a section, a reported path need not lead anywhere.
example :
    let p : Profile := ⟨[("a.b", .mapping [("c", .scalar .null)])], rfl⟩
    (p.occurrences "c").map (·.1) = ["a.b.c"] ∧ (p.get? "a.b.c").isNone := by decide

/-- No two sections have one name, so that what a field means below them has different paths. -/
theorem nodup_occurrences (p : Profile) (field : String) :
    ((p.occurrences field).map (·.1)).Nodup := by
  cases found : p.get? field with
  | some v =>
    rw [occurrences_of_get? found]
    exact List.pairwise_singleton _ _
  | none =>
    rw [occurrences_of_absent found]
    split
    · exact List.nodup_nil
    · have ordered : Ordered p.sections := of_decide_eq_true (Value.isKeyed_iff.mp p.keyed).1
      rw [List.Nodup, List.pairwise_map, List.pairwise_filterMap]
      refine ordered.imp ?_
      intro e f less c first d second same
      obtain ⟨-, -, left⟩ := below?_eq_some_iff.mp first
      obtain ⟨-, -, right⟩ := below?_eq_some_iff.mp second
      rw [left, right, String.append_assoc, String.append_assoc, String.append_left_inj] at same
      exact String.ne_of_lt less same

end Dossier.Profile
