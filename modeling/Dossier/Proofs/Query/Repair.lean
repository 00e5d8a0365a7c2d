import Dossier.Proofs.Query.Builder
import Dossier.Query.Parse
import Mathlib.Data.List.Forall2
import Mathlib.Logic.Relation

/-!
Repairs of a token list: parentheses without a partner and operators without two sides. None of
them changes the expression, wherever it is made and whatever else is wrong with the list.
-/

namespace Dossier.Query

/-- How many groups are open after a token; a parenthesis that closes none is not counted. -/
def depthAfter (depth : Nat) (t : Token) : Nat :=
  if t.isOpening then depth + 1 else if t.isClosing then depth - 1 else depth

def openGroups (tokens : List Token) : Nat := tokens.foldl depthAfter 0

/-- One repair: a closing parenthesis goes where no group is open, or one comes for each group that
is still open at the end; an operator goes before another one, at either end of the tokens, or at
either end of a group. -/
inductive Repair : List Token → List Token → Prop
  | stray (before) {after c} : c.isClosing = true → openGroups before = 0 →
      Repair (before ++ c :: after) (before ++ after)
  | unclosed (tokens) {closers} : (∀ c ∈ closers, c.isClosing = true) →
      closers.length = openGroups tokens → Repair tokens (tokens ++ closers)
  | doubled (before) {after o o'} : o.kind = .operator → o'.kind = .operator →
      Repair (before ++ o :: o' :: after) (before ++ o' :: after)
  | first {after o} : o.kind = .operator → Repair (o :: after) after
  | leading (before) {after p o} : p.isOpening = true → o.kind = .operator →
      Repair (before ++ p :: o :: after) (before ++ p :: after)
  | last (before) {o} : o.kind = .operator → Repair (before ++ [o]) before
  | trailing (before) {after o c} : o.kind = .operator → c.isClosing = true →
      openGroups before ≠ 0 → Repair (before ++ o :: c :: after) (before ++ c :: after)

namespace Level

/-- No operand tells the two levels apart: they hold the same, and the next operand is joined to it
in the same way. -/
def Alike (l l' : Level) : Prop :=
  l.tree = l'.tree ∧ (l.tree = none ∨ l.pending.getD .and = l'.pending.getD .and)

variable {l l' : Level}

theorem Alike.refl (l : Level) : l.Alike l := ⟨rfl, .inr rfl⟩

theorem alike_of_vacant (h : l.tree = none) (h' : l'.tree = none) : l.Alike l' :=
  ⟨h.trans h'.symm, .inl h⟩

theorem Alike.add (h : l.Alike l') (operand : Option Expr) : l.add operand = l'.add operand := by
  obtain ⟨tree, pending⟩ := l
  obtain ⟨tree', pending'⟩ := l'
  obtain ⟨same, joins⟩ := h
  change tree = tree' at same
  change tree = none ∨ pending.getD .and = pending'.getD .and at joins
  subst same
  cases tree with
  | none => rfl
  | some e =>
    have joins : pending.getD .and = pending'.getD .and := joins.resolve_left nofun
    cases operand with
    | none => rfl
    | some f => simp only [Level.add, joins]

theorem Alike.addGroup (h : l.Alike l') {inner inner' : Level} (same : inner.tree = inner'.tree)
    (negated : Bool) : l.addGroup inner negated = l'.addGroup inner' negated := by
  rw [Level.addGroup, Level.addGroup, same, h.add]

end Level

namespace Builder

variable {b b' : Builder} {t : Token}

theorem length_outer_feed (b : Builder) (t : Token) :
    (b.feed t).outer.length = depthAfter b.outer.length t := by
  obtain ⟨l, outer⟩ := b
  unfold depthAfter
  cases t.role with
  | operator h =>
    simp [feed_operator h, Token.isOpening_of_operator h, Token.isClosing_of_operator h]
  | opening h => simp [feed_opening h, h]
  | closing h =>
    rw [if_neg (by simp [Token.isOpening_of_closing h]), if_pos h]
    cases outer with
    | nil => rw [feed_stray h]; rfl
    | cons top rest => rw [feed_closing h]; rfl
  | term h => simp [feed_term h, Token.isOpening_of_term h, Token.isClosing_of_term h]

theorem length_outer_foldl (tokens : List Token) (b : Builder) :
    (tokens.foldl feed b).outer.length = tokens.foldl depthAfter b.outer.length := by
  induction tokens generalizing b with
  | nil => rfl
  | cons t rest ih => rw [List.foldl_cons, List.foldl_cons, ih, length_outer_feed]

theorem length_outer_start (tokens : List Token) :
    (tokens.foldl feed start).outer.length = openGroups tokens := length_outer_foldl tokens start

structure Alike (b b' : Builder) : Prop where
  current : b.current.Alike b'.current
  outer : List.Forall₂ (fun o o' => o.1.Alike o'.1 ∧ o.2 = o'.2) b.outer b'.outer

theorem alike_of_current {l l' : Level} (h : l.Alike l') (outer : List (Level × Bool)) :
    Alike ⟨l, outer⟩ ⟨l', outer⟩ :=
  ⟨h, List.forall₂_same.mpr fun o _ => ⟨.refl o.1, rfl⟩⟩

theorem Alike.feed (h : b.Alike b') (t : Token) : (b.feed t).Alike (b'.feed t) := by
  obtain ⟨l, outer⟩ := b
  obtain ⟨l', outer'⟩ := b'
  obtain ⟨current, around⟩ := h
  cases t.role with
  | operator ht =>
    rw [feed_operator ht, feed_operator ht]
    exact ⟨⟨current.1, .inr rfl⟩, around⟩
  | opening ht =>
    rw [feed_opening ht, feed_opening ht]
    exact ⟨.refl _, .cons ⟨current, rfl⟩ around⟩
  | closing ht =>
    cases around with
    | nil =>
      rw [feed_stray ht, feed_stray ht]
      exact ⟨current, .nil⟩
    | @cons o o' rest rest' top below =>
      obtain ⟨alike, same⟩ := top
      rw [feed_closing ht, feed_closing ht, alike.addGroup current.1, same]
      exact ⟨.refl _, below⟩
  | term ht =>
    rw [feed_term ht, feed_term ht]
    dsimp only at current ⊢
    rw [current.add]
    exact ⟨.refl _, around⟩

theorem Alike.finish (h : b.Alike b') : b.finish = b'.finish := by
  obtain ⟨l, outer⟩ := b
  obtain ⟨l', outer'⟩ := b'
  obtain ⟨current, around⟩ := h
  dsimp only at current around
  induction around generalizing l l' with
  | nil => exact current.1
  | @cons o o' rest rest' top _ ih =>
    obtain ⟨alike, same⟩ := top
    have closed : o.1.addGroup l o.2 = o'.1.addGroup l' o'.2 := by
      rw [alike.addGroup current.1, same]
    exact ih (o.1.addGroup l o.2) (o'.1.addGroup l' o'.2) (closed ▸ .refl _)

/-- What is alike stays alike, and ends with the same expression. -/
theorem Alike.finish_foldl (h : b.Alike b') (tokens : List Token) :
    (tokens.foldl Builder.feed b).finish = (tokens.foldl Builder.feed b').finish := by
  induction tokens generalizing b b' with
  | nil => exact h.finish
  | cons t rest ih => exact ih (h.feed t)

section Edits

variable {o o' c : Token}

theorem feed_of_outermost (closing : c.isClosing = true) (outermost : b.outer = []) :
    b.feed c = b := by
  obtain ⟨l, outer⟩ := b
  change outer = [] at outermost
  subst outermost
  exact feed_stray closing l

theorem feed_doubled (operator : o.kind = .operator) (operator' : o'.kind = .operator) :
    (b.feed o).feed o' = b.feed o' := by
  rw [feed_operator operator, feed_operator operator', feed_operator operator']

theorem feed_trailing (operator : o.kind = .operator) (closing : c.isClosing = true)
    (inside : b.outer ≠ []) : (b.feed o).feed c = b.feed c := by
  obtain ⟨l, outer⟩ := b
  cases outer with
  | nil => exact absurd rfl inside
  | cons top rest =>
    rw [feed_operator operator, feed_closing closing, feed_closing closing]
    rfl

theorem finish_last (operator : o.kind = .operator) (b : Builder) :
    (b.feed o).finish = b.finish := by
  obtain ⟨l, outer⟩ := b
  rw [feed_operator operator]
  cases outer with
  | nil => rfl
  | cons top rest => rfl

theorem finish_leading (operator : o.kind = .operator) (vacant : b.current.tree = none)
    (rest : List Token) : (rest.foldl feed (b.feed o)).finish = (rest.foldl feed b).finish := by
  have alike : Level.Alike ⟨b.current.tree, some (.ofText o.value)⟩ b.current :=
    Level.alike_of_vacant vacant vacant
  rw [feed_operator operator]
  exact (alike_of_current alike b.outer).finish_foldl rest

theorem finish_closers {closers : List Token} (closing : ∀ c ∈ closers, c.isClosing = true)
    (b : Builder) (enough : closers.length = b.outer.length) :
    (closers.foldl feed b).finish = b.finish := by
  induction closers generalizing b with
  | nil => rfl
  | cons c rest ih =>
    obtain ⟨first, later⟩ := List.forall_mem_cons.mp closing
    obtain ⟨l, outer⟩ := b
    cases outer with
    | nil => cases enough
    | cons top outer =>
      rw [List.foldl_cons, feed_closing first, ih later _ (Nat.succ.inj enough)]
      rfl

end Edits

end Builder

theorem build_append (before after : List Token) :
    build (before ++ after) =
      (after.foldl Builder.feed (before.foldl Builder.feed .start)).finish := by
  rw [build, List.foldl_append]

theorem build_of_repair {tokens repaired : List Token} (h : Repair tokens repaired) :
    build repaired = build tokens := by
  cases h with
  | stray before closing closed =>
    have outermost : (before.foldl Builder.feed .start).outer = [] := by
      rw [← List.length_eq_zero_iff, Builder.length_outer_start, closed]
    rw [build_append, build_append, List.foldl_cons, Builder.feed_of_outermost closing outermost]
  | unclosed _ closing enough =>
    rw [build_append]
    exact Builder.finish_closers closing _ (enough.trans (Builder.length_outer_start _).symm)
  | doubled _ operator operator' =>
    rw [build_append, build_append, List.foldl_cons, List.foldl_cons, List.foldl_cons,
      Builder.feed_doubled operator operator']
  | first operator => exact (Builder.finish_leading operator rfl _).symm
  | @leading before after p _ opening operator =>
    have vacant : ((before.foldl Builder.feed .start).feed p).current.tree = none := by
      rw [Builder.feed_opening opening]
      rfl
    rw [build_append, build_append]
    exact (Builder.finish_leading operator vacant after).symm
  | last _ operator =>
    rw [build_append]
    exact (Builder.finish_last operator _).symm
  | trailing before operator closing opened =>
    have inside : (before.foldl Builder.feed .start).outer ≠ [] := by
      rwa [ne_eq, ← List.length_eq_zero_iff, Builder.length_outer_start]
    rw [build_append, build_append, List.foldl_cons, List.foldl_cons, List.foldl_cons,
      Builder.feed_trailing operator closing inside]

/-- Any number of repairs, in any order and at any depth, keep the expression. -/
theorem build_of_repairs {tokens repaired : List Token}
    (repairs : Relation.ReflTransGen Repair tokens repaired) : build repaired = build tokens := by
  induction repairs with
  | refl => rfl
  | tail _ repair same => exact (build_of_repair repair).trans same

/-- The tokens of `AND ) a AND OR ( OR b AND ) ( c OR` are repaired to those of
`a OR ( b ) ( c )`, by one repair of each kind. -/
theorem build_of_repairs_of_each_kind :
    let word (c : Char) : Token := .ofRun [c] false
    let operator (v : String) : Token := .plain .operator v false
    let group (v : String) : Token := .plain .group v false
    let tokens := [operator "AND", group ")", word 'a', operator "AND", operator "OR", group "(",
      operator "OR", word 'b', operator "AND", group ")", group "(", word 'c', operator "OR"]
    let repaired := [word 'a', operator "OR", group "(", word 'b', group ")", group "(", word 'c',
      group ")"]
    Relation.ReflTransGen Repair tokens repaired ∧ build repaired = build tokens ∧
      build tokens = some (.and (.or (.term ⟨none, "a", false⟩)
        (.group (.term ⟨none, "b", false⟩))) (.group (.term ⟨none, "c", false⟩))) := by
  intro word operator group tokens repaired
  let a := word 'a'
  let b := word 'b'
  have repairs : Relation.ReflTransGen Repair tokens repaired := by
    refine .head (.first rfl) ?_
    refine .head (.stray [] rfl rfl) ?_
    refine .head (.doubled [a] rfl rfl) ?_
    refine .head (.leading [a, operator "OR"] rfl rfl) ?_
    refine .head (.trailing [a, operator "OR", group "(", b] rfl rfl (by decide)) ?_
    refine .head (.last [a, operator "OR", group "(", b, group ")", group "(", word 'c'] rfl) ?_
    have closing : ∀ c ∈ [group ")"], c.isClosing = true := by decide
    refine .single (.unclosed _ closing ?_)
    decide
  exact ⟨repairs, build_of_repairs repairs, by decide⟩

end Dossier.Query
