import Dossier.Search.Result

/-!
Merging results. For every key the first result that carries it stays, and nothing else does.
-/

namespace Dossier.SearchResult

theorem mem_firstPerKey_iff {r : SearchResult} {seen : List (String × String)}
    {results : List SearchResult} :
    r ∈ firstPerKey seen results ↔
      r.key ∉ seen ∧ results.find? (·.key = r.key) = some r := by
  induction results generalizing seen with
  | nil => simp [firstPerKey]
  | cons a rest ih =>
    rw [firstPerKey, List.find?_cons]
    by_cases known : a.key ∈ seen
    · rw [if_pos (List.contains_iff_mem.mpr known), ih]
      refine and_congr_right fun new => ?_
      have other : a.key ≠ r.key := fun same => new (same ▸ known)
      simp [other]
    · rw [if_neg (by simpa using known), List.mem_cons, ih]
      by_cases same : a.key = r.key
      · rw [same] at known
        simp only [same, decide_true, Option.some.injEq]
        constructor
        · rintro (rfl | ⟨new, _⟩)
          · exact ⟨known, rfl⟩
          · exact absurd List.mem_cons_self new
        · rintro ⟨_, rfl⟩
          exact .inl rfl
      · have other : r ≠ a := fun equal => same (equal ▸ rfl)
        have unequal : r.key ≠ a.key := Ne.symm same
        simp [same, other, unequal]

theorem nodup_keys_firstPerKey (seen : List (String × String)) (results : List SearchResult) :
    ((firstPerKey seen results).map key).Nodup := by
  induction results generalizing seen with
  | nil => exact List.nodup_nil
  | cons a rest ih =>
    rw [firstPerKey]
    split
    · exact ih seen
    · rw [List.map_cons, List.nodup_cons]
      refine ⟨fun again => ?_, ih (a.key :: seen)⟩
      obtain ⟨r, mem, same⟩ := List.mem_map.mp again
      exact (mem_firstPerKey_iff.mp mem).1 (same ▸ List.mem_cons_self)

theorem firstPerKey_sublist (seen : List (String × String)) (results : List SearchResult) :
    (firstPerKey seen results).Sublist results := by
  induction results generalizing seen with
  | nil => exact .slnil
  | cons a rest ih =>
    rw [firstPerKey]
    split
    · exact .cons a (ih seen)
    · exact .cons_cons a (ih (a.key :: seen))

theorem exists_firstPerKey_append (seen : List (String × String)) (xs ys : List SearchResult) :
    ∃ seen', firstPerKey seen (xs ++ ys) = firstPerKey seen xs ++ firstPerKey seen' ys := by
  induction xs generalizing seen with
  | nil => exact ⟨seen, rfl⟩
  | cons a rest ih =>
    rw [List.cons_append, firstPerKey, firstPerKey]
    split
    · exact ih seen
    · obtain ⟨seen', split⟩ := ih (a.key :: seen)
      exact ⟨seen', by rw [split, List.cons_append]⟩

theorem key_mem_firstPerKey {seen : List (String × String)} {results : List SearchResult}
    {r : SearchResult} (new : r.key ∉ seen) (mem : r ∈ results) :
    r.key ∈ (firstPerKey seen results).map key := by
  cases first : results.find? (·.key = r.key) with
  | none =>
    have other := List.find?_eq_none.mp first r mem
    exact absurd (decide_eq_true rfl) other
  | some s =>
    have same : s.key = r.key := by simpa using List.find?_some first
    rw [← same] at first new ⊢
    exact List.mem_map_of_mem (mem_firstPerKey_iff.mpr ⟨new, first⟩)

theorem find?_key_of_nodup {results : List SearchResult} (nodup : (results.map key).Nodup)
    {r : SearchResult} (mem : r ∈ results) : results.find? (·.key = r.key) = some r := by
  induction results with
  | nil => cases mem
  | cons a rest ih =>
    rw [List.map_cons, List.nodup_cons] at nodup
    rcases List.mem_cons.mp mem with rfl | later
    · exact List.find?_cons_of_pos (decide_eq_true rfl)
    · have other : a.key ≠ r.key := fun same => nodup.1 (same ▸ List.mem_map_of_mem later)
      rw [List.find?_cons_of_neg (by simpa using other)]
      exact ih nodup.2 later

variable {primary secondary : List SearchResult} {r : SearchResult}

theorem nodup_keys_mergeUnique (primary secondary : List SearchResult) :
    ((mergeUnique primary secondary).map key).Nodup :=
  nodup_keys_firstPerKey [] (primary ++ secondary)

theorem exists_mergeUnique_eq_append (primary secondary : List SearchResult) :
    ∃ later, later.Sublist secondary ∧
      mergeUnique primary secondary = firstPerKey [] primary ++ later := by
  obtain ⟨seen, split⟩ := exists_firstPerKey_append [] primary secondary
  exact ⟨firstPerKey seen secondary, firstPerKey_sublist seen secondary, split⟩

theorem mem_mergeUnique_iff :
    r ∈ mergeUnique primary secondary ↔
      primary.find? (·.key = r.key) = some r ∨
        r.key ∉ primary.map key ∧ secondary.find? (·.key = r.key) = some r := by
  have first : r ∈ mergeUnique primary secondary ↔
      (primary ++ secondary).find? (·.key = r.key) = some r :=
    mem_firstPerKey_iff.trans (and_iff_right List.not_mem_nil)
  have absent : primary.find? (·.key = r.key) = none ↔ r.key ∉ primary.map key := by
    simp [List.find?_eq_none, key]
  rw [first, List.find?_append, Option.or_eq_some_iff, absent]

theorem mem_of_mem_mergeUnique (h : r ∈ mergeUnique primary secondary) :
    r ∈ primary ∨ r ∈ secondary := by
  rcases mem_mergeUnique_iff.mp h with found | ⟨_, found⟩
  · exact .inl (List.mem_of_find?_eq_some found)
  · exact .inr (List.mem_of_find?_eq_some found)

end Dossier.SearchResult
