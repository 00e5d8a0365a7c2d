import Dossier.Text.Blank

/-!
Boolean expressions over terms. A group says nothing of its own and keeps the shape that was
written.
-/

namespace Dossier.Query

/-- A condition on one field, or on all searched fields; `exact` asks for the whole value. -/
structure Term where
  field : Option String
  value : String
  exact : Bool
  deriving DecidableEq, Repr

inductive Expr where
  | term (t : Term)
  | group (e : Expr)
  | not (e : Expr)
  | and (e f : Expr)
  | or (e f : Expr)
  deriving DecidableEq, Repr

def freeText (text : String) : Option Expr :=
  match (Text.words text.toList).map fun w => Expr.term ⟨none, String.ofList w, false⟩ with
  | [] => none
  | e :: rest => some (rest.foldl .and e)

end Dossier.Query
