import Dossier.Query.Build

/-!
What each token does to a group that is being read. The stack of the builder holds the suspended
calls of a recursive descent: a descent that shares one cursor over the tokens makes the same
expression.
-/

namespace Dossier.Query

namespace Token

def isOpening (t : Token) : Bool := t.kind == .group && t.value != ")"

def isClosing (t : Token) : Bool := t.kind == .group && t.value == ")"

def condition (t : Token) : Term := ⟨t.field, t.value, t.quoted⟩

theorem isOpening_iff {t : Token} : t.isOpening = true ↔ t.kind = .group ∧ t.value ≠ ")" := by
  simp [isOpening]

theorem isClosing_iff {t : Token} : t.isClosing = true ↔ t.kind = .group ∧ t.value = ")" := by
  simp [isClosing]

theorem isOpening_of_closing {t : Token} (h : t.isClosing = true) : t.isOpening = false := by
  simp [isOpening, (isClosing_iff.mp h).2]

inductive Role (t : Token) : Prop
  | operator (h : t.kind = .operator)
  | opening (h : t.isOpening = true)
  | closing (h : t.isClosing = true)
  | term (h : t.isTerm = true)

theorem role (t : Token) : t.Role := by
  cases kind : t.kind with
  | operator => exact .operator kind
  | group =>
    by_cases h : t.value = ")"
    · exact .closing (isClosing_iff.mpr ⟨kind, h⟩)
    · exact .opening (isOpening_iff.mpr ⟨kind, h⟩)
  | word => exact .term (by simp [isTerm, kind, TokenKind.isTerm])
  | phrase => exact .term (by simp [isTerm, kind, TokenKind.isTerm])
  | field => exact .term (by simp [isTerm, kind, TokenKind.isTerm])

theorem isTerm_of_operator {t : Token} (h : t.kind = .operator) : t.isTerm = false := by
  simp [isTerm, h, TokenKind.isTerm]

theorem isTerm_of_opening {t : Token} (h : t.isOpening = true) : t.isTerm = false := by
  simp [isTerm, (isOpening_iff.mp h).1, TokenKind.isTerm]

theorem isTerm_of_closing {t : Token} (h : t.isClosing = true) : t.isTerm = false := by
  simp [isTerm, (isClosing_iff.mp h).1, TokenKind.isTerm]

theorem isOpening_of_operator {t : Token} (h : t.kind = .operator) : t.isOpening = false := by
  simp [isOpening, h]

theorem isClosing_of_operator {t : Token} (h : t.kind = .operator) : t.isClosing = false := by
  simp [isClosing, h]

theorem isOpening_of_term {t : Token} (h : t.isTerm = true) : t.isOpening = false := by
  cases opening : t.isOpening with
  | false => rfl
  | true => rw [isTerm_of_opening opening] at h; cases h

theorem isClosing_of_term {t : Token} (h : t.isTerm = true) : t.isClosing = false := by
  cases closing : t.isClosing with
  | false => rfl
  | true => rw [isTerm_of_closing closing] at h; cases h

end Token

namespace Level

theorem isSome_add (l : Level) (operand : Option Expr) :
    (l.add operand).tree.isSome = (l.tree.isSome || operand.isSome) := by
  obtain ⟨tree, pending⟩ := l
  cases tree <;> cases operand <;> rfl

theorem elim_add {α : Type} {f : Expr → List α} (and : ∀ e g, f (.and e g) = f e ++ f g)
    (or : ∀ e g, f (.or e g) = f e ++ f g) (l : Level) (operand : Option Expr) :
    (l.add operand).tree.elim [] f = l.tree.elim [] f ++ operand.elim [] f := by
  obtain ⟨tree, pending⟩ := l
  cases tree with
  | none => rfl
  | some e =>
    cases operand with
    | none => exact (List.append_nil _).symm
    | some g =>
      match pending with
      | none => exact and e g
      | some .and => exact and e g
      | some .or => exact or e g

theorem isSome_addGroup (outer inner : Level) (negated : Bool) :
    (outer.addGroup inner negated).tree.isSome = (outer.tree.isSome || inner.tree.isSome) := by
  rw [addGroup, isSome_add, Option.isSome_map]

end Level

namespace Builder

variable {b : Builder} {t : Token}

theorem feed_operator (h : t.kind = .operator) :
    b.feed t = { b with current.pending := some (.ofText t.value) } := by
  simp [feed, h]

theorem feed_opening (h : t.isOpening = true) :
    b.feed t = ⟨.empty, (b.current, t.negated) :: b.outer⟩ := by
  obtain ⟨kind, value⟩ := Token.isOpening_iff.mp h
  simp [feed, kind, value]

theorem feed_stray (h : t.isClosing = true) (l : Level) : feed ⟨l, []⟩ t = ⟨l, []⟩ := by
  obtain ⟨kind, value⟩ := Token.isClosing_iff.mp h
  simp [feed, kind, value]

theorem feed_closing (h : t.isClosing = true) (l l' : Level) (n : Bool)
    (rest : List (Level × Bool)) : feed ⟨l, (l', n) :: rest⟩ t = ⟨l'.addGroup l n, rest⟩ := by
  obtain ⟨kind, value⟩ := Token.isClosing_iff.mp h
  simp [feed, kind, value]

theorem feed_term (h : t.isTerm = true) :
    b.feed t = { b with current := b.current.add (some (termOf t)) } := by
  unfold Token.isTerm TokenKind.isTerm at h
  cases kind : t.kind <;> simp_all [feed]

/-- What does not change when the innermost group ends is read off the finished expression. -/
theorem apply_finish {α : Type} (f : Option Expr → α) {measure : Builder → α}
    (outermost : ∀ l, measure ⟨l, []⟩ = f l.tree)
    (ended : ∀ l l' n outer, measure ⟨l, (l', n) :: outer⟩ = measure ⟨l'.addGroup l n, outer⟩)
    (b : Builder) : f b.finish = measure b := by
  obtain ⟨l, outer⟩ := b
  induction outer generalizing l with
  | nil => exact (outermost l).symm
  | cons top rest ih =>
    rw [ended]
    exact ih (top.1.addGroup l top.2)

def holdsTree (b : Builder) : Bool := b.current.tree.isSome || b.outer.any (·.1.tree.isSome)

theorem holdsTree_of_group (l l' : Level) (n : Bool) (outer : List (Level × Bool)) :
    holdsTree ⟨l, (l', n) :: outer⟩ = holdsTree ⟨l'.addGroup l n, outer⟩ := by
  simp [holdsTree, Level.isSome_addGroup, Bool.or_assoc, Bool.or_left_comm]

theorem holdsTree_feed (b : Builder) (t : Token) :
    (b.feed t).holdsTree = (b.holdsTree || t.isTerm) := by
  obtain ⟨l, outer⟩ := b
  cases t.role with
  | operator h => rw [feed_operator h, Token.isTerm_of_operator h, Bool.or_false]; rfl
  | opening h =>
    rw [feed_opening h, Token.isTerm_of_opening h]
    simp [holdsTree, Level.empty]
  | closing h =>
    rw [Token.isTerm_of_closing h, Bool.or_false]
    cases outer with
    | nil => rw [feed_stray h]
    | cons top rest => rw [feed_closing h, holdsTree_of_group]
  | term h =>
    rw [feed_term h, h]
    simp [holdsTree, Level.isSome_add]

theorem holdsTree_foldl (tokens : List Token) (b : Builder) :
    (tokens.foldl feed b).holdsTree = (b.holdsTree || tokens.any (·.isTerm)) := by
  induction tokens generalizing b with
  | nil => simp
  | cons t rest ih => rw [List.foldl_cons, ih, holdsTree_feed, List.any_cons, Bool.or_assoc]

theorem isSome_finish (b : Builder) : b.finish.isSome = b.holdsTree :=
  apply_finish Option.isSome (fun l => Bool.or_false l.tree.isSome) holdsTree_of_group b

end Builder

theorem isSome_build (tokens : List Token) : (build tokens).isSome = tokens.any (·.isTerm) := by
  rw [build, Builder.isSome_finish, Builder.holdsTree_foldl]
  rfl

end Dossier.Query
