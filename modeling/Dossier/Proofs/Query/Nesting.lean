import Dossier.Proofs.Query.Builder
import Mathlib.Data.List.Forall2

/-!
The group in which a token list ends. Whether an operator waits there for its right side can be
told from its tokens.
-/

namespace Dossier.Query

/-- The tokens of the innermost open group, and for each group around it, from the inside out, its
tokens up to the parenthesis that opens the next one. Stray parentheses are left out. -/
structure Nesting where
  inner : List Token
  outer : List (List Token × Token)

namespace Nesting

def feed (n : Nesting) (t : Token) : Nesting :=
  if t.isOpening then ⟨[], (n.inner, t) :: n.outer⟩
  else if t.isClosing then
    match n.outer with
    | [] => n
    | (before, p) :: rest => ⟨before ++ p :: (n.inner ++ [t]), rest⟩
  else ⟨n.inner ++ [t], n.outer⟩

end Nesting

def innermost (tokens : List Token) : List Token := (tokens.foldl Nesting.feed ⟨[], []⟩).inner

def Token.isOr (t : Token) : Bool := t.kind == .operator && t.value == "OR"

def endsWithOr (group : List Token) : Bool := group.getLast?.any (·.isOr)

/-- An OR at the end of the tokens has something on its left. -/
def OrWaits (tokens : List Token) : Prop :=
  (innermost tokens).any (·.isTerm) = true ∧ endsWithOr (innermost tokens) = true

instance (tokens : List Token) : Decidable (OrWaits tokens) :=
  inferInstanceAs (Decidable (_ ∧ _))

theorem Token.isOr_of_kind {t : Token} (h : t.kind ≠ .operator) : t.isOr = false := by
  simp [isOr, h]

theorem Token.isOr_of_operator {t : Token} (h : t.kind = .operator) :
    t.isOr = true ↔ Connective.ofText t.value = .or := by
  unfold Connective.ofText
  split
  · simp [isOr, *]
  · simp [isOr, *]

theorem endsWithOr_append (group : List Token) (t : Token) :
    endsWithOr (group ++ [t]) = t.isOr := by
  simp [endsWithOr]

namespace Level

variable {l l' : Level} {group before : List Token} {t p c : Token}

theorem pending_add (l : Level) (operand : Option Expr) : (l.add operand).pending = none := by
  obtain ⟨tree, pending⟩ := l
  cases tree <;> cases operand <;> rfl

def Reads (l : Level) (group : List Token) : Prop :=
  l.tree.isSome = group.any (·.isTerm) ∧ (l.pending = some .or ↔ endsWithOr group = true)

theorem reads_nil : Level.empty.Reads [] := ⟨rfl, by simp [Level.empty, endsWithOr]⟩

theorem Reads.operator (h : l.Reads group) (operator : t.kind = .operator) :
    Reads { l with pending := some (.ofText t.value) } (group ++ [t]) := by
  constructor
  · simp [h.1, Token.isTerm_of_operator operator]
  · rw [endsWithOr_append, Token.isOr_of_operator operator]
    exact ⟨Option.some.inj, congrArg some⟩

theorem reads_of_added (filled : l.tree.isSome = group.any (·.isTerm)) (added : l.pending = none)
    (last : endsWithOr group = false) : l.Reads group :=
  ⟨filled, by simp [added, last]⟩

theorem Reads.term (h : l.Reads group) (term : t.isTerm = true) (e : Expr) :
    (l.add (some e)).Reads (group ++ [t]) := by
  refine reads_of_added ?_ (pending_add _ _) ?_
  · simp [isSome_add, h.1, term]
  · rw [endsWithOr_append]
    refine Token.isOr_of_kind fun operator => ?_
    rw [Token.isTerm_of_operator operator] at term
    cases term

theorem Reads.close (inner : l.Reads group) (outer : l'.Reads before) (n : Bool)
    (opening : p.isOpening = true) (closing : c.isClosing = true) :
    (l'.addGroup l n).Reads (before ++ p :: (group ++ [c])) := by
  refine reads_of_added ?_ (pending_add _ _) ?_
  · simp [isSome_addGroup, inner.1, outer.1, Token.isTerm_of_opening opening,
      Token.isTerm_of_closing closing]
  · have last : before ++ p :: (group ++ [c]) = (before ++ p :: group) ++ [c] := by simp
    rw [last, endsWithOr_append]
    exact Token.isOr_of_kind (by simp [(Token.isClosing_iff.mp closing).1])

end Level

namespace Builder

/-- The levels of a builder read the groups of a nesting, pair by pair. -/
structure Reads (b : Builder) (n : Nesting) : Prop where
  current : b.current.Reads n.inner
  outer : List.Forall₂ (fun o g => o.1.Reads g.1 ∧ g.2.isOpening = true) b.outer n.outer

theorem Reads.feed {b : Builder} {n : Nesting} (h : b.Reads n) (t : Token) :
    (b.feed t).Reads (n.feed t) := by
  obtain ⟨l, outer⟩ := b
  obtain ⟨inner, around⟩ := n
  obtain ⟨current, below⟩ := h
  unfold Nesting.feed
  cases t.role with
  | operator ht =>
    rw [feed_operator ht, if_neg (by simp [Token.isOpening_of_operator ht]),
      if_neg (by simp [Token.isClosing_of_operator ht])]
    exact ⟨current.operator ht, below⟩
  | opening ht =>
    rw [feed_opening ht, if_pos ht]
    exact ⟨Level.reads_nil, .cons ⟨current, ht⟩ below⟩
  | closing ht =>
    rw [if_neg (by simp [Token.isOpening_of_closing ht]), if_pos ht]
    cases below with
    | nil =>
      rw [feed_stray ht]
      exact ⟨current, .nil⟩
    | @cons o g rest rest' top below =>
      rw [feed_closing ht]
      exact ⟨current.close top.1 o.2 top.2 ht, below⟩
  | term ht =>
    rw [feed_term ht, if_neg (by simp [Token.isOpening_of_term ht]),
      if_neg (by simp [Token.isClosing_of_term ht])]
    exact ⟨current.term ht _, below⟩

theorem Reads.foldl {b : Builder} {n : Nesting} (h : b.Reads n) (tokens : List Token) :
    (tokens.foldl Builder.feed b).Reads (tokens.foldl Nesting.feed n) := by
  induction tokens generalizing b n with
  | nil => exact h
  | cons t rest ih => exact ih (h.feed t)

theorem reads_innermost (tokens : List Token) :
    (tokens.foldl feed start).current.Reads (innermost tokens) :=
  (Reads.foldl ⟨Level.reads_nil, .nil⟩ tokens).current

end Builder

theorem orWaits_iff {tokens : List Token} :
    OrWaits tokens ↔ ∃ e, (tokens.foldl Builder.feed .start).current = ⟨some e, some .or⟩ := by
  have reads := Builder.reads_innermost tokens
  generalize (tokens.foldl Builder.feed .start).current = l at reads
  obtain ⟨tree, pending⟩ := l
  obtain ⟨filled, ends⟩ := reads
  dsimp only at filled ends
  rw [OrWaits, ← filled, ← ends, Option.isSome_iff_exists]
  simp

end Dossier.Query
