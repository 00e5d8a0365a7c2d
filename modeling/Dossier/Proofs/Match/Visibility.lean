import Dossier.Match.Plan
import Dossier.Proofs.Profile.Occurrence
import Dossier.Schema

/-!
What terms without a field can see of a record: the values that its searchable paths refer to. That
is the value at the path itself, or, where the path leads nowhere, what it refers to below any
section.
-/

namespace Dossier

def Plan.IsUnscoped : Plan → Prop
  | .term field _ => field = none
  | .not p => p.IsUnscoped
  | .and p q | .or p q => p.IsUnscoped ∧ q.IsUnscoped

namespace Plan

variable {t u : Target} {s : Setting} {p : Plan}

theorem run_congr {fields : List String} (same : t.candidates s.fields = u.candidates fields)
    (h : p.IsUnscoped) : p.run t s = p.run u { s with fields := fields } := by
  induction p with
  | term field pattern =>
    cases h
    rw [run, run, same]
    rfl
  | not p ih => rw [run, run, ih h]
  | and p q hp hq => rw [run, run, hp h.1, hq h.2]
  | or p q hp hq => rw [run, run, hp h.1, hq h.2]

theorem aborts_congr {fields : List String} (same : t.candidates s.fields = u.candidates fields)
    (h : p.IsUnscoped) : p.aborts t s = p.aborts u { s with fields := fields } := by
  induction p with
  | term field pattern =>
    cases h
    rw [aborts, aborts, same]
  | not p ih => rw [aborts, aborts, ih h]
  | and p q hp hq => rw [aborts, aborts, hp h.1, hq h.2]
  | or p q hp hq => rw [aborts, aborts, hp h.1, hq h.2]

theorem origin_of_mem_addHits {found : List (String × Outcome)} {hits : List Hit} {hit : Hit}
    (mem : hit ∈ found.foldl (fun hits c => addHit hits c.1 c.2) hits) :
    hit ∈ hits ∨ ∃ c ∈ found, hit = ⟨c.1, c.2.highlights⟩ := by
  induction found generalizing hits with
  | nil => exact .inl mem
  | cons c rest ih =>
    rcases ih mem with old | ⟨d, later, same⟩
    · change hit ∈ addHit hits c.1 c.2 at old
      rw [addHit] at old
      split at old
      · exact .inl old
      · rcases List.mem_append.mp old with old | new
        · exact .inl old
        · exact .inr ⟨c, List.mem_cons_self, List.mem_singleton.mp new⟩
    · exact .inr ⟨d, List.mem_cons_of_mem _ later, same⟩

theorem path_of_mem_hits (h : p.IsUnscoped) {hit : Hit} (mem : hit ∈ (p.run t s).hits) :
    hit.path ∈ (t.candidates s.fields).map (·.1) := by
  induction p with
  | term field pattern =>
    cases h
    rcases origin_of_mem_addHits mem with old | ⟨c, found, same⟩
    · cases old
    · obtain ⟨candidate, offered, rfl⟩ := List.mem_map.mp (List.mem_filter.mp found).1
      exact List.mem_map.mpr ⟨candidate, offered, congrArg Hit.path same.symm⟩
  | not p _ => cases mem
  | and p q hp hq =>
    rcases List.mem_append.mp mem with mem | mem
    · exact hp h.1 mem
    · exact hq h.2 mem
  | or p q hp hq =>
    rcases List.mem_append.mp mem with mem | mem
    · exact hp h.1 mem
    · exact hq h.2 mem

end Plan

namespace Profile

def MeansPath (p : Profile) (field : String) : Prop := p.get? field = none → p.occurrences field = []

theorem meansPath_of_get? {p : Profile} {field : String} {v : Value} (h : p.get? field = some v) :
    p.MeansPath field := by
  intro absent
  rw [h] at absent
  cases absent

theorem MeansPath.occurrences {p : Profile} {field : String} (h : p.MeansPath field) :
    p.occurrences field = (p.get? field).toList.map fun v => (field, v) := by
  cases found : p.get? field with
  | none => exact h found
  | some v => rw [occurrences_of_get? found, Option.toList_some, List.map_singleton]

end Profile

theorem candidates_of_meansPath {r : Record} {fields : List String}
    (direct : ∀ field ∈ fields, r.profile.MeansPath field) :
    (Target.record r).candidates fields =
      fields.flatMap fun field => (r.profile.get? field).toList.map fun v => (field, v) := by
  have each := List.map_congr_left fun field mem => (direct field mem).occurrences
  rw [Target.candidates, List.flatMap_def, List.flatMap_def, each]

/-- Where every searchable path means its own value or nothing, terms without a field depend on the
values at the searchable paths alone, and report no other path. -/
theorem unscoped_sees_searchable (schema : Schema) (highlight : Bool) (context : Nat)
    {a b : Record} {p : Plan} (unscoped : p.IsUnscoped)
    (agree : ∀ path ∈ schema.searchable, a.profile.get? path = b.profile.get? path)
    (direct : ∀ path ∈ schema.searchable, a.profile.MeansPath path ∧ b.profile.MeansPath path) :
    p.run (.record a) ⟨schema.searchable, highlight, context⟩ =
        p.run (.record b) ⟨schema.searchable, highlight, context⟩ ∧
      ∀ hit ∈ (p.run (.record a) ⟨schema.searchable, highlight, context⟩).hits,
        hit.path ∈ schema.searchable := by
  have seenA := candidates_of_meansPath fun path mem => (direct path mem).1
  have seenB := candidates_of_meansPath fun path mem => (direct path mem).2
  constructor
  · refine Plan.run_congr ?_ unscoped
    change (Target.record a).candidates schema.searchable = (Target.record b).candidates _
    rw [seenA, seenB, List.flatMap_def, List.flatMap_def,
      List.map_congr_left fun path mem => by rw [agree path mem]]
  · intro hit mem
    have offered := Plan.path_of_mem_hits unscoped mem
    rw [seenA] at offered
    obtain ⟨c, candidate, path⟩ := List.mem_map.mp offered
    obtain ⟨field, searchable, candidate⟩ := List.mem_flatMap.mp candidate
    obtain ⟨v, _, rfl⟩ := List.mem_map.mp candidate
    exact path ▸ searchable

/-- A secret in a section of its own stays out of sight. -/
theorem unscoped_sees_searchable_not_internal :
    let schema : Schema := ⟨[⟨"core", [{ name := "name" }]⟩]⟩
    let hank : Record := ⟨"people", "1", "profile",
      ⟨[("core", .mapping [("name", .scalar (.text "Hank"))]),
        ("internal", .mapping [("secret", .scalar (.text "needle"))])], by decide⟩, none⟩
    let twin : Record := ⟨"people", "1", "profile",
      ⟨[("core", .mapping [("name", .scalar (.text "Hank"))])], by decide⟩, none⟩
    let p := Plan.compile (.or (.term ⟨none, "needle", false⟩) (.term ⟨none, "hank", false⟩))
    p.IsUnscoped ∧
      p.run (.record hank) ⟨schema.searchable, true, 50⟩ =
        p.run (.record twin) ⟨schema.searchable, true, 50⟩ ∧
      ∀ hit ∈ (p.run (.record hank) ⟨schema.searchable, true, 50⟩).hits,
        hit.path ∈ schema.searchable := by
  intro schema hank twin p
  have unscoped : p.IsUnscoped := ⟨rfl, rfl⟩
  have only {path : String} (mem : path ∈ schema.searchable) : path = "core.name" :=
    List.mem_singleton.mp mem
  have name : hank.profile.get? "core.name" = some (.scalar (.text "Hank")) := rfl
  have same : twin.profile.get? "core.name" = some (.scalar (.text "Hank")) := rfl
  refine ⟨unscoped, unscoped_sees_searchable schema true 50 unscoped ?_ ?_⟩
  · intro path mem
    rw [only mem, name, same]
  · intro path mem
    rw [only mem]
    exact ⟨Profile.meansPath_of_get? name, Profile.meansPath_of_get? same⟩

/-- A searchable path that leads nowhere is tried below every section, declared or not: two records
without a value at any searchable path are told apart, and a path that is not searchable is
reported. -/
theorem unscoped_sees_below_section :
    let schema : Schema := ⟨[⟨"core", [{ name := "name" }]⟩]⟩
    let blank : Record := ⟨"people", "1", "profile", .empty, none⟩
    let hidden : Record := ⟨"people", "2", "profile",
      ⟨[("internal", .mapping [("core", .mapping [("name", .scalar (.text "needle"))])])], rfl⟩,
      none⟩
    let p := Plan.compile (.term ⟨none, "needle", false⟩)
    p.IsUnscoped ∧
      (∀ path ∈ schema.searchable, blank.profile.get? path = hidden.profile.get? path) ∧
      p.run (.record blank) ⟨schema.searchable, true, 50⟩ = .miss ∧
      p.run (.record hidden) ⟨schema.searchable, true, 50⟩ =
        ⟨true, .whole, [⟨"internal.core.name", ["**needle**"]⟩]⟩ ∧
      "internal.core.name" ∉ schema.searchable := by
  intro schema blank hidden p
  refine ⟨rfl, ?_, by decide +kernel, by decide +kernel, by decide +kernel⟩
  intro path mem
  rw [List.mem_singleton.mp mem]
  rfl

end Dossier
