import Dossier.Query.Expr

/-!
Expressions as trees: the places of their terms, and their Boolean value for a given truth of the
terms.
-/

namespace Dossier.Query

/-- A term at its place: the expressions around it, from the whole down to the term itself. -/
structure Occurrence where
  term : Term
  path : List Expr
  deriving DecidableEq, Repr

def Occurrence.within (e : Expr) (o : Occurrence) : Occurrence := { o with path := e :: o.path }

namespace Expr

def occurrences : Expr → List Occurrence
  | .term q => [⟨q, [.term q]⟩]
  | .group e => e.occurrences.map (.within (.group e))
  | .not e => e.occurrences.map (.within (.not e))
  | .and e f => (e.occurrences ++ f.occurrences).map (.within (.and e f))
  | .or e f => (e.occurrences ++ f.occurrences).map (.within (.or e f))

def isNot : Expr → Bool
  | .not _ => true
  | _ => false

def value (truth : Term → Bool) : Expr → Bool
  | .term q => truth q
  | .group e => e.value truth
  | .not e => !e.value truth
  | .and e f => e.value truth && f.value truth
  | .or e f => e.value truth || f.value truth

theorem mem_path_of_mem_occurrences {e : Expr} {o : Occurrence} (h : o ∈ e.occurrences) :
    e ∈ o.path := by
  cases e <;> simp only [occurrences, List.mem_map, List.mem_singleton] at h
  case term => simp [h]
  all_goals
    obtain ⟨inner, _, rfl⟩ := h
    exact List.mem_cons_self

end Expr

def Occurrence.isPositive (o : Occurrence) : Bool := o.path.all fun e => !e.isNot

@[simp] theorem Occurrence.isPositive_within (e : Expr) (o : Occurrence) :
    (o.within e).isPositive = (!e.isNot && o.isPositive) := rfl

end Dossier.Query
