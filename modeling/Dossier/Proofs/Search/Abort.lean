import Dossier.Command.Run
import Dossier.Proofs.Match.Abort
import Dossier.Proofs.Search.Report

/-!
Searches and commands that a fault of the program ends. None is ended if all that it reads is short
enough for the context.
-/

namespace Dossier

namespace Engine

variable {e : Engine} {s : Source}

theorem aborts_of_fits (fits : s.Fits e.context) (q : Request) : e.aborts s q = false := by
  unfold aborts
  dsimp only
  split
  · rfl
  · split
    · rfl
    · rename_i records read
      rw [List.any_eq_false]
      intro r mem
      have short := fits.candidates _ _ records read r (List.mem_of_mem_filter mem)
      rw [Plan.aborts_of_fits short]
      exact Bool.false_ne_true

theorem withinAborts_of_fits {collection id : String}
    (fits : ∀ r, s.record? collection id = .ok (some r) → (Target.record r).Fits e.context)
    (text : String) : e.withinAborts s collection id text = false := by
  unfold withinAborts
  split
  · rfl
  · split
    · rename_i r found
      rw [List.any_eq_false]
      intro leaf listed
      have short : (Target.leaf leaf.1 leaf.2).Fits e.context := (fits r found).leaf listed
      exact Bool.eq_false_iff.mp (Plan.aborts_of_fits (s := ⟨[], true, e.context⟩) short)
    · rfl

end Engine

/-- No command is ended by a fault of the program if every text of the store is short enough for the
configured context. -/
theorem Command.aborts_of_fits {c : Config} {store : Store}
    (fits : ∀ r ∈ store.allRecords, (Target.record r).Fits c.snippetContext) (command : Command) :
    command.aborts c store = false := by
  have short : store.source.Fits (engineOf c).context := Store.fits_source fits
  cases command with
  | search o =>
    rw [aborts, Engine.aborts_of_fits short]
  | within collection record query =>
    rw [aborts, Engine.withinAborts_of_fits (short.record? collection record)]
  | parse _ | fields | index _ => rfl

end Dossier
