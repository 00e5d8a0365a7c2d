import Dossier.Query.Basic
import Dossier.Query.Expr

/-!
From tokens to an expression. Operators have one precedence and apply from the left; terms without
an operator between them are both asked for. Parentheses need not balance: a stray closing one is
skipped, and an open group ends with the tokens.
-/

namespace Dossier.Query

inductive Connective where
  | and
  | or
  deriving DecidableEq, Repr

namespace Connective

def ofText (s : String) : Connective := if s = "OR" then .or else .and

def join : Connective → Expr → Expr → Expr
  | .and => .and
  | .or => .or

end Connective

/-- A group while it is read: what it holds so far, and the last operator after that. -/
structure Level where
  tree : Option Expr
  pending : Option Connective
  deriving DecidableEq, Repr

namespace Level

def empty : Level := ⟨none, none⟩

/-- Appends an operand; an empty one uses up the operator all the same. -/
def add (l : Level) (operand : Option Expr) : Level :=
  match l.tree, operand with
  | none, _ => ⟨operand, none⟩
  | some e, none => ⟨some e, none⟩
  | some e, some f => ⟨some ((l.pending.getD .and).join e f), none⟩

def addGroup (outer inner : Level) (negated : Bool) : Level :=
  outer.add (inner.tree.map fun e => if negated then .not (.group e) else .group e)

end Level

/-- The innermost group, and those around it from the inside out, each with the negation of the
group inside it. -/
structure Builder where
  current : Level
  outer : List (Level × Bool)
  deriving DecidableEq, Repr

namespace Builder

def start : Builder := ⟨.empty, []⟩

def termOf (t : Token) : Expr :=
  let e := Expr.term ⟨t.field, t.value, t.quoted⟩
  if t.negated then .not e else e

def feed (b : Builder) (t : Token) : Builder :=
  match t.kind with
  | .operator => { b with current.pending := some (.ofText t.value) }
  | .group =>
    if t.value = ")" then
      match b.outer with
      | [] => b
      | (l, negated) :: rest => ⟨l.addGroup b.current negated, rest⟩
    else ⟨.empty, (b.current, t.negated) :: b.outer⟩
  | .word | .phrase | .field => { b with current := b.current.add (termOf t) }

def finish (b : Builder) : Option Expr :=
  (b.outer.foldl (fun inner (l, negated) => l.addGroup inner negated) b.current).tree

end Builder

def build (tokens : List Token) : Option Expr := (tokens.foldl Builder.feed .start).finish

end Dossier.Query
