import Dossier.Proofs.Query.Builder

/-!
The terms of an expression, from left to right. Building makes exactly one of each word, phrase and
field among the tokens, in their order, whatever the other tokens are.
-/

namespace Dossier.Query

structure Leaf where
  term : Term
  negated : Bool
  deriving DecidableEq, Repr

namespace Expr

def leavesUnder (negated : Bool) : Expr → List Leaf
  | .term q => [⟨q, negated⟩]
  | .group e => e.leavesUnder false
  | .not e => e.leavesUnder true
  | .and e f => e.leavesUnder false ++ f.leavesUnder false
  | .or e f => e.leavesUnder false ++ f.leavesUnder false

def leaves (e : Expr) : List Leaf := e.leavesUnder false

end Expr

def Token.leaf? (t : Token) : Option Leaf :=
  if t.isTerm then some ⟨⟨t.field, t.value, t.quoted⟩, t.negated⟩ else none

theorem leaves_termOf (t : Token) : (Builder.termOf t).leaves = [⟨t.condition, t.negated⟩] := by
  unfold Builder.termOf
  cases t.negated with
  | false => rfl
  | true => rfl

namespace Level

def leaves (l : Level) : List Leaf := l.tree.elim [] Expr.leaves

theorem leaves_add (l : Level) (operand : Option Expr) :
    (l.add operand).leaves = l.leaves ++ operand.elim [] Expr.leaves :=
  l.elim_add (fun _ _ => rfl) (fun _ _ => rfl) operand

/-- A group keeps its leaves; its own negation does not stand directly over any of them. -/
theorem leaves_addGroup (outer inner : Level) (negated : Bool) :
    (outer.addGroup inner negated).leaves = outer.leaves ++ inner.leaves := by
  obtain ⟨tree, pending⟩ := inner
  rw [addGroup, leaves_add]
  cases tree with
  | none => rfl
  | some e => cases negated <;> rfl

end Level

namespace Builder

variable {b : Builder} {t : Token}

/-- What all open groups hold, the outermost first. -/
def leaves (b : Builder) : List Leaf := b.outer.reverse.flatMap (·.1.leaves) ++ b.current.leaves

theorem leaves_of_group (l l' : Level) (n : Bool) (outer : List (Level × Bool)) :
    leaves ⟨l, (l', n) :: outer⟩ = leaves ⟨l'.addGroup l n, outer⟩ := by
  simp [leaves, Level.leaves_addGroup]

theorem leaves_feed (b : Builder) (t : Token) : (b.feed t).leaves = b.leaves ++ t.leaf?.toList := by
  obtain ⟨l, outer⟩ := b
  unfold Token.leaf?
  cases t.role with
  | operator h =>
    rw [feed_operator h, Token.isTerm_of_operator h]
    exact (List.append_nil _).symm
  | opening h =>
    rw [feed_opening h, Token.isTerm_of_opening h]
    simp [leaves, Level.leaves, Level.empty]
  | closing h =>
    rw [Token.isTerm_of_closing h]
    cases outer with
    | nil =>
      rw [feed_stray h]
      exact (List.append_nil _).symm
    | cons top rest =>
      rw [feed_closing h, leaves_of_group]
      exact (List.append_nil _).symm
  | term h =>
    rw [feed_term h, h]
    simp [leaves, Level.leaves_add, leaves_termOf, Token.condition]

theorem leaves_foldl (tokens : List Token) (b : Builder) :
    (tokens.foldl feed b).leaves = b.leaves ++ tokens.filterMap Token.leaf? := by
  induction tokens generalizing b with
  | nil => simp
  | cons t rest ih =>
    rw [List.foldl_cons, ih, leaves_feed, List.append_assoc, List.filterMap_cons]
    cases t.leaf? <;> rfl

theorem leaves_finish (b : Builder) : b.finish.elim [] Expr.leaves = b.leaves :=
  apply_finish (·.elim [] Expr.leaves) (fun _ => rfl) leaves_of_group b

end Builder

/-- The leaves of the expression are the terms among the tokens, each with its condition and its
negation, and there is no expression just if there is no such token. -/
theorem leaves_build (tokens : List Token) :
    (build tokens).elim [] Expr.leaves = tokens.filterMap Token.leaf? ∧
    (build tokens = none ↔ ∀ t ∈ tokens, t.isTerm = false) := by
  constructor
  · rw [build, Builder.leaves_finish, Builder.leaves_foldl]
    rfl
  · rw [← Option.isNone_iff_eq_none, ← Option.not_isSome, isSome_build]
    simp

end Dossier.Query
