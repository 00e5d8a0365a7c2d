import Dossier.Proofs.Query.Builder

/-!
Building by recursive descent. One cursor moves over the tokens; a group is read by a call of its
own, which leaves the cursor behind its closing parenthesis, or at the end. The stack of the builder
is the list of the calls that wait for another to return.
-/

namespace Dossier.Query

def wrap (negated : Bool) (e : Expr) : Expr := if negated then .not (.group e) else .group e

/-- What a group holds from the given tokens on, and the tokens behind it. The outermost sequence
has depth zero, and no parenthesis ends it. -/
def sequence (depth : Nat) (l : Level) :
    (tokens : List Token) → { r : Option Expr × List Token // r.2.length ≤ tokens.length }
  | [] => ⟨(l.tree, []), Nat.le_refl _⟩
  | t :: rest =>
    if t.isTerm then
      let r := sequence depth (l.add (some (Builder.termOf t))) rest
      ⟨r.1, Nat.le_succ_of_le r.2⟩
    else if t.isOpening then
      let inner := sequence (depth + 1) .empty rest
      have := Nat.lt_succ_of_le inner.2
      let r := sequence depth (l.add (inner.1.1.map (wrap t.negated))) inner.1.2
      ⟨r.1, Nat.le_succ_of_le (Nat.le_trans r.2 inner.2)⟩
    else if t.isClosing then
      if depth = 0 then
        let r := sequence depth l rest
        ⟨r.1, Nat.le_succ_of_le r.2⟩
      else ⟨(l.tree, rest), Nat.le_succ _⟩
    else
      let r := sequence depth { l with pending := some (.ofText t.value) } rest
      ⟨r.1, Nat.le_succ_of_le r.2⟩
termination_by tokens => tokens.length
decreasing_by all_goals simp_all <;> omega

def descend (tokens : List Token) : Option Expr := (sequence 0 .empty tokens).1.1

/-- What is left to do once the innermost call has returned: its result goes to the call that waits
for it, which reads on. -/
def resume (tree : Option Expr) (rest : List Token) : List (Level × Bool) → Option Expr
  | [] => tree
  | (l, negated) :: outer =>
    (rest.foldl Builder.feed ⟨l.add (tree.map (wrap negated)), outer⟩).finish

theorem foldl_feed_eq_resume (tokens : List Token) (l : Level) (outer : List (Level × Bool)) :
    (tokens.foldl Builder.feed ⟨l, outer⟩).finish =
      resume (sequence outer.length l tokens).1.1 (sequence outer.length l tokens).1.2 outer := by
  -- Tokens behind a group are read by the call around it, so that the induction is on their number.
  obtain ⟨n, h⟩ : ∃ n, tokens.length = n := ⟨_, rfl⟩
  induction n using Nat.strongRecOn generalizing tokens l outer with
  | ind n ih =>
    cases tokens with
    | nil =>
      rw [sequence]
      cases outer with
      | nil => rfl
      | cons top rest => rfl
    | cons t rest =>
      have shorter : rest.length < n := by simp [← h]
      rw [List.foldl_cons, sequence]
      cases t.role with
      | term ht =>
        rw [Builder.feed_term ht, if_pos ht]
        exact ih _ shorter rest _ outer rfl
      | opening ht =>
        rw [Builder.feed_opening ht, if_neg (by simp [Token.isTerm_of_opening ht]), if_pos ht,
          ih _ shorter rest _ _ rfl]
        have inner := (sequence (outer.length + 1) .empty rest).2
        exact ih _ (Nat.lt_of_le_of_lt inner shorter) _ _ outer rfl
      | closing ht =>
        rw [if_neg (by simp [Token.isTerm_of_closing ht]),
          if_neg (by simp [Token.isOpening_of_closing ht]), if_pos ht]
        cases outer with
        | nil =>
          rw [Builder.feed_stray ht]
          exact ih _ shorter rest l [] rfl
        | cons top outer => rw [Builder.feed_closing ht]; rfl
      | operator ht =>
        rw [Builder.feed_operator ht, if_neg (by simp [Token.isTerm_of_operator ht]),
          if_neg (by simp [Token.isOpening_of_operator ht]),
          if_neg (by simp [Token.isClosing_of_operator ht])]
        exact ih _ shorter rest _ outer rfl

theorem descend_eq_build (tokens : List Token) : descend tokens = build tokens :=
  (foldl_feed_eq_resume tokens .empty []).symm

end Dossier.Query
