import Dossier.Proofs.Match.Visibility
import Dossier.Proofs.Profile.Address

/-!
A leaf by itself, and its record with the path of the leaf for the only field. Where paths are
addresses, the path means the leaf and nothing else, so that terms without a field are tried on the
same value either way.
-/

namespace Dossier

variable {r : Record} {leaf : String × Scalar}

/-- The path of a leaf, as the only field of a record, offers the leaf and nothing else. -/
theorem candidates_of_mem_leaves (plain : r.profile.IsPlain) (mem : leaf ∈ r.profile.leaves)
    (fields : List String) :
    (Target.leaf leaf.1 leaf.2).candidates fields = (Target.record r).candidates [leaf.1] := by
  have found : r.profile.get? leaf.1 = some (.scalar leaf.2) := plain.get?_of_mem_leaves mem
  have meant := Profile.occurrences_of_get? found
  calc
    (Target.leaf leaf.1 leaf.2).candidates fields
    _ = [(leaf.1, .scalar leaf.2)] := rfl
    _ = r.profile.occurrences leaf.1 := meant.symm
    _ = [leaf.1].flatMap r.profile.occurrences := (List.flatMap_singleton _ _).symm

/-- Terms without a field see a leaf by itself as they see the record through the path of the leaf:
the evaluation is the same, whatever is highlighted, and so is whether the run ends the program. -/
theorem leaf_runs_as_only_field (plain : r.profile.IsPlain) {p : Plan} (unscoped : p.IsUnscoped)
    (mem : leaf ∈ r.profile.leaves) (fields : List String) (highlight : Bool) (context : Nat) :
    p.run (.leaf leaf.1 leaf.2) ⟨fields, highlight, context⟩ =
        p.run (.record r) ⟨[leaf.1], highlight, context⟩ ∧
      p.aborts (.leaf leaf.1 leaf.2) ⟨fields, highlight, context⟩ =
        p.aborts (.record r) ⟨[leaf.1], highlight, context⟩ := by
  have same := candidates_of_mem_leaves plain mem fields
  constructor
  · exact Plan.run_congr (s := ⟨fields, highlight, context⟩) same unscoped
  · exact Plan.aborts_congr (s := ⟨fields, highlight, context⟩) same unscoped

/-- An item of a sequence below an empty key, for a plan with a negation in a disjunction. -/
theorem leaf_runs_as_only_field_nested :
    let r : Record := ⟨"people", "1", "profile",
      ⟨[("core", .mapping [("", .sequence [.scalar .null, .scalar (.text "Ann Lee")])]),
        ("tags", .scalar (.text "Ann"))], by decide⟩, none⟩
    let p := Plan.compile (.and (.term ⟨none, "lee", false⟩)
      (.or (.not (.term ⟨none, "kim", false⟩)) (.term ⟨none, "a*", false⟩)))
    r.profile.IsPlain ∧ p.IsUnscoped ∧ ("core..1", .text "Ann Lee") ∈ r.profile.leaves ∧
      p.run (.leaf "core..1" (.scalar (.text "Ann Lee"))) ⟨["tags"], true, 1⟩ =
        p.run (.record r) ⟨["core..1"], true, 1⟩ ∧
      p.run (.record r) ⟨["core..1"], true, 1⟩ =
        ⟨true, .wild, [⟨"core..1", ["... **Lee**"]⟩, ⟨"core..1", ["≈ An..."]⟩]⟩ := by
  intro r p
  have plain : r.profile.IsPlain := ⟨by decide, by decide, by decide⟩
  have unscoped : p.IsUnscoped := ⟨rfl, rfl, rfl⟩
  have listed : ("core..1", .text "Ann Lee") ∈ r.profile.leaves :=
    List.mem_cons_of_mem _ List.mem_cons_self
  obtain ⟨same, -⟩ := leaf_runs_as_only_field plain unscoped listed ["tags"] true 1
  exact ⟨plain, unscoped, listed, same, by decide +kernel⟩

end Dossier
