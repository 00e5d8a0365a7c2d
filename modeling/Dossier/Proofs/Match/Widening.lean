import Dossier.Proofs.Match.Abort
import Dossier.Proofs.Match.Whole

/-!
More fields for the terms that name none. Such a term is tried on more values, the best of them
counts, and all that match are reported. Conjunctions and disjunctions keep what is gained, also
where a side that failed begins to count; a negation would turn it round.
-/

namespace Dossier

namespace Evaluation

variable {v w v' w' : Evaluation}

def paths (v : Evaluation) : List String := v.hits.map (·.path)

/-- The other evaluation has at least what this one has: it matches where this one does, its score
is no less, and it reports every path that this one reports. -/
structure IsWithin (v w : Evaluation) : Prop where
  matched : v.matched = true → w.matched = true
  score : v.score ≤ w.score
  paths : v.paths ⊆ w.paths

theorem score_le_iff : v.score ≤ w.score ↔ v.grade.rank ≤ w.grade.rank := Grade.score_le_iff _ _

theorem IsWithin.refl (v : Evaluation) : v.IsWithin v where
  matched := id
  score := score_le_iff.mpr (Nat.le_refl _)
  paths := List.Subset.refl _

theorem IsWithin.append_paths (left : v.IsWithin w) (right : v'.IsWithin w') :
    (v.hits ++ v'.hits).map (·.path) ⊆ (w.hits ++ w'.hits).map (·.path) := by
  rw [List.map_append, List.map_append]
  exact List.append_subset.mpr ⟨List.subset_append_of_subset_left _ left.paths,
    List.subset_append_of_subset_right _ right.paths⟩

/-- What both sides of a conjunction gain is gained; before both match its score is nothing. -/
theorem IsWithin.and (left : v.IsWithin w) (right : v'.IsWithin w') :
    (v.and v').IsWithin (w.and w') := by
  have both (matched : (v.matched && v'.matched) = true) : (w.matched && w'.matched) = true := by
    rw [Bool.and_eq_true] at matched ⊢
    exact ⟨left.matched matched.1, right.matched matched.2⟩
  refine ⟨both, ?_, left.append_paths right⟩
  rw [score_le_iff, Evaluation.and, Evaluation.and]
  dsimp only
  by_cases matched : (v.matched && v'.matched) = true
  · rw [if_pos matched, if_pos (both matched)]
    exact Grade.rank_max_le_rank_max (score_le_iff.mp left.score) (score_le_iff.mp right.score)
  · rw [if_neg matched]
    exact Nat.zero_le _

theorem IsWithin.or (left : v.IsWithin w) (right : v'.IsWithin w') :
    (v.or v').IsWithin (w.or w') := by
  have counted {x y : Evaluation} (within : x.IsWithin y) :
      (if x.matched then x.grade else .miss).rank ≤ (if y.matched then y.grade else .miss).rank := by
    by_cases matched : x.matched = true
    · rw [if_pos matched, if_pos (within.matched matched)]
      exact score_le_iff.mp within.score
    · rw [if_neg matched]
      exact Nat.zero_le _
  refine ⟨?_, ?_, left.append_paths right⟩
  · intro either
    rcases Bool.or_eq_true_iff.mp either with first | second
    · exact Bool.or_eq_true_iff.mpr (.inl (left.matched first))
    · exact Bool.or_eq_true_iff.mpr (.inr (right.matched second))
  · rw [score_le_iff, Evaluation.or, Evaluation.or]
    exact Grade.rank_max_le_rank_max (counted left) (counted right)

end Evaluation

namespace Plan

def IsPositive : Plan → Prop
  | .term _ _ => True
  | .not _ => False
  | .and p q | .or p q => p.IsPositive ∧ q.IsPositive

variable {p : Pattern} {s : Setting} {cs ds : List (String × Value)}

theorem mem_paths_addHits {found : List (String × Outcome)} {hits : List Hit} {path : String} :
    path ∈ (found.foldl (fun hits c => addHit hits c.1 c.2) hits).map (·.path) ↔
      path ∈ hits.map (·.path) ∨ path ∈ found.map (·.1) := by
  induction found generalizing hits with
  | nil => simp
  | cons c rest ih =>
    have first : path ∈ (addHit hits c.1 c.2).map (·.path) ↔
        path ∈ hits.map (·.path) ∨ path = c.1 := by
      rw [addHit]
      split
      · rename_i known
        obtain ⟨hit, mem, here⟩ := List.any_eq_true.mp known
        rw [or_iff_left_of_imp]
        rintro rfl
        exact List.mem_map.mpr ⟨hit, mem, of_decide_eq_true here⟩
      · rw [List.map_append, List.mem_append, List.map_singleton, List.mem_singleton]
    rw [List.foldl_cons, ih, first, List.map_cons, List.mem_cons, or_assoc]

theorem paths_evaluateUnscoped {path : String} :
    path ∈ (evaluateUnscoped p s cs).paths ↔ path ∈ (matching p s cs).map (·.1) := by
  refine mem_paths_addHits.trans ?_
  simp

theorem matching_subset (sub : cs ⊆ ds) : matching p s cs ⊆ matching p s ds :=
  List.filter_subset _ (List.map_subset _ sub)

theorem evaluateUnscoped_isWithin (sub : cs ⊆ ds) :
    (evaluateUnscoped p s cs).IsWithin (evaluateUnscoped p s ds) := by
  have found : matching p s cs ⊆ matching p s ds := matching_subset sub
  constructor
  case matched =>
    rw [matched_evaluateUnscoped_iff, matched_evaluateUnscoped_iff]
    intro some none
    rw [none, List.subset_nil] at found
    exact some found
  case score =>
    rw [Evaluation.score_le_iff, grade_evaluateUnscoped, grade_evaluateUnscoped]
    exact Grade.rank_best_le (List.map_subset _ found)
  case paths =>
    intro path reported
    rw [paths_evaluateUnscoped] at reported ⊢
    exact List.map_subset _ found reported

theorem evaluateScoped_fields (fields : List String) :
    evaluateScoped p { s with fields := fields } cs = evaluateScoped p s cs := by
  induction cs with
  | nil => rfl
  | cons c rest ih => rw [evaluateScoped, evaluateScoped, ih]

end Plan

theorem Target.candidates_subset (t : Target) {fewer more : List String} (sub : fewer ⊆ more) :
    t.candidates fewer ⊆ t.candidates more := by
  cases t with
  | record r =>
    intro c mem
    obtain ⟨field, asked, meant⟩ := List.mem_flatMap.mp mem
    exact List.mem_flatMap.mpr ⟨field, sub asked, meant⟩
  | leaf path v => exact List.Subset.refl _

/-- More fields never hurt a plan that negates nothing, in whatever order they come and however often:
it goes on matching, with no less a score, and reports every path that it reported. Neither run is
ended by a fault of the program where the texts are short enough for the context. -/
theorem more_fields_widen (t : Target) {p : Plan} (positive : p.IsPositive)
    {fewer more : List String} (sub : fewer ⊆ more) (highlight : Bool) (context : Nat) :
    (p.run t ⟨fewer, highlight, context⟩).IsWithin (p.run t ⟨more, highlight, context⟩) ∧
      (t.Fits context → p.aborts t ⟨fewer, highlight, context⟩ = false ∧
        p.aborts t ⟨more, highlight, context⟩ = false) := by
  constructor
  · -- Only the terms without a field see the two lists; all else is passed on by the connectives.
    induction p with
    | term field pattern =>
      cases field with
      | none =>
        exact Plan.evaluateUnscoped_isWithin (s := ⟨more, highlight, context⟩)
          (t.candidates_subset sub)
      | some field =>
        rw [Plan.run, Plan.run, ← Plan.evaluateScoped_fields more]
        exact .refl _
    | not p _ => cases positive
    | and p q hp hq => exact (hp positive.1).and (hq positive.2)
    | or p q hp hq => exact (hp positive.1).or (hq positive.2)
  · intro fits
    exact ⟨Plan.aborts_of_fits (s := ⟨fewer, highlight, context⟩) fits,
      Plan.aborts_of_fits (s := ⟨more, highlight, context⟩) fits⟩

/-- A conjunction that fails on the name alone holds with the aliases, and its score, which did not
count, is now the best. -/
theorem more_fields_widen_conjunction :
    let r : Record := ⟨"people", "1", "profile",
      ⟨[("core", .mapping [("aliases", .sequence [.scalar .null, .scalar (.text "Ann")]),
        ("name", .scalar (.text "Lee"))]), ("tags", .mapping [("status",
        .scalar (.text "inactive"))])], by decide⟩, none⟩
    let p := Plan.compile (.or (.group (.and (.term ⟨none, "ann", false⟩)
      (.term ⟨none, "lee", false⟩))) (.term ⟨some "status", "active", false⟩))
    let fewer := ["core.name"]
    let more := ["core.aliases", "core.name", "aliases", "core.aliases"]
    p.IsPositive ∧ fewer ⊆ more ∧ (Target.record r).Fits 50 ∧
      (p.run (.record r) ⟨fewer, false, 50⟩).IsWithin (p.run (.record r) ⟨more, false, 50⟩) ∧
      p.aborts (.record r) ⟨more, false, 50⟩ = false ∧
      p.run (.record r) ⟨fewer, false, 50⟩ =
        ⟨true, .inside, [⟨"core.name", []⟩, ⟨"tags.status", []⟩]⟩ ∧
      p.run (.record r) ⟨more, false, 50⟩ =
        ⟨true, .whole, [⟨"core.aliases", []⟩, ⟨"core.name", []⟩, ⟨"tags.status", []⟩]⟩ := by
  intro r p fewer more
  have positive : p.IsPositive := ⟨⟨trivial, trivial⟩, trivial⟩
  have sub : fewer ⊆ more := by decide
  have fits : (Target.record r).Fits 50 := by decide +kernel
  obtain ⟨within, complete⟩ := more_fields_widen (.record r) positive sub false 50
  obtain ⟨-, through⟩ := complete fits
  exact ⟨positive, sub, fits, within, through, by decide +kernel, by decide +kernel⟩

end Dossier
