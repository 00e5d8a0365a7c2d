import Dossier.Proofs.Query.Machine
import Dossier.Proofs.Query.Nesting
import Dossier.Proofs.Query.Repair

/-!
Empty groups. Two parentheses with nothing between them stand for an AND, since they use up the
operator before them. So they may go just if no OR waits there for an operand behind them.
-/

namespace Dossier.Query

/-- The tokens begin with an operand: a term, or a group that holds one. Where no group is open,
stray parentheses may stand before it. -/
def beginsOperand (depth : Nat) : List Token → Bool
  | [] => false
  | t :: rest =>
    if t.isTerm then true
    else if t.isOpening then (interior 0 rest).any (·.isTerm)
    else t.isClosing && depth == 0 && beginsOperand depth rest

theorem interior_cons {depth : Nat} {t : Token} {rest : List Token}
    (inside : t.isClosing = true → depth ≠ 0) :
    interior depth (t :: rest) = t :: interior (depthAfter depth t) rest := by
  unfold depthAfter
  rw [interior]
  split
  · rfl
  · split
    · rename_i closing
      rw [if_neg (inside closing)]
    · rfl

namespace Builder

section Group

variable {b : Builder} {t : Token}

def within (b : Builder) (base : List (Level × Bool)) : Builder := ⟨b.current, b.outer ++ base⟩

theorem feed_within (inside : t.isClosing = true → b.outer ≠ []) (base : List (Level × Bool)) :
    (b.within base).feed t = (b.feed t).within base := by
  obtain ⟨l, outer⟩ := b
  cases t.role with
  | operator ht => rw [feed_operator ht, feed_operator ht]; rfl
  | opening ht => rw [feed_opening ht, feed_opening ht]; rfl
  | closing ht =>
    cases outer with
    | nil => exact absurd rfl (inside ht)
    | cons top outer => rw [feed_closing ht]; exact feed_closing ht _ _ _ _
  | term ht => rw [feed_term ht, feed_term ht]; rfl

/-- What is open in `b` is read to the end of its outermost group, which then hands one operand to
the level around it, whatever this holds. There is none just if the group holds no term. -/
theorem finish_group (tokens : List Token) (b : Builder) :
    ∃ (operand : Option Expr) (rest : List Token), rest.length ≤ tokens.length ∧
      operand.isSome = (b.holdsTree || (interior b.outer.length tokens).any (·.isTerm)) ∧
      ∀ (l : Level) (n : Bool) (outer : List (Level × Bool)),
        (tokens.foldl feed (b.within ((l, n) :: outer))).finish =
          (rest.foldl feed ⟨l.add (operand.map (wrap n)), outer⟩).finish := by
  induction tokens generalizing b with
  | nil =>
    refine ⟨b.finish, [], Nat.le_refl _, by simp [isSome_finish, interior], fun l n outer => ?_⟩
    simp only [List.foldl_nil, finish, within, List.foldl_append, List.foldl_cons]
    rfl
  | cons t rest ih =>
    -- The one token that reaches below `b` is the parenthesis that closes its outermost group.
    by_cases closes : t.isClosing = true ∧ b.outer = []
    · obtain ⟨closing, outermost⟩ := closes
      obtain ⟨l', outer'⟩ := b
      change outer' = [] at outermost
      subst outermost
      refine ⟨l'.tree, rest, Nat.le_succ _, ?_, fun l n outer => ?_⟩
      · simp [holdsTree, interior_closing closing]
      · rw [List.foldl_cons, within, List.nil_append, feed_closing closing]
        rfl
    · have inside : t.isClosing = true → b.outer ≠ [] := fun closing outermost =>
        closes ⟨closing, outermost⟩
      obtain ⟨operand, rest', shorter, filled, same⟩ := ih (b.feed t)
      refine ⟨operand, rest', Nat.le_succ_of_le shorter, ?_, fun l n outer => ?_⟩
      · have depth : t.isClosing = true → b.outer.length ≠ 0 := fun closing none =>
          inside closing (List.length_eq_zero_iff.mp none)
        rw [filled, holdsTree_feed, length_outer_feed, interior_cons depth, List.any_cons,
          Bool.or_assoc]
      · rw [List.foldl_cons, feed_within inside, same]

theorem finish_opened (opening : t.isOpening = true) (tokens : List Token) :
    ∃ (operand : Option Expr) (rest : List Token), rest.length ≤ tokens.length ∧
      operand.isSome = (interior 0 tokens).any (·.isTerm) ∧
      ∀ (l : Level) (outer : List (Level × Bool)),
        (tokens.foldl feed (feed ⟨l, outer⟩ t)).finish =
          (rest.foldl feed ⟨l.add (operand.map (wrap t.negated)), outer⟩).finish := by
  obtain ⟨operand, rest, shorter, filled, same⟩ := finish_group tokens start
  refine ⟨operand, rest, shorter, filled, fun l outer => ?_⟩
  rw [feed_opening opening]
  exact same l t.negated outer

end Group

end Builder

section Injective

theorem Connective.join_injective (op : Connective) (f : Expr) :
    Function.Injective fun e => op.join e f := by
  intro e e' same
  cases op with
  | and => exact (Expr.and.inj same).1
  | or => exact (Expr.or.inj same).1

theorem Connective.join_injective_right (op : Connective) (e : Expr) :
    Function.Injective (op.join e) := by
  intro f f' same
  cases op with
  | and => exact (Expr.and.inj same).2
  | or => exact (Expr.or.inj same).2

theorem wrap_injective (negated : Bool) : Function.Injective (wrap negated) := by
  intro e e' same
  cases negated with
  | false => exact Expr.group.inj same
  | true => exact Expr.group.inj (Expr.not.inj same)

namespace Level

theorem exists_add_eq (pending : Option Connective) (operand : Option Expr) :
    ∃ f : Expr → Expr, Function.Injective f ∧
      ∀ e, Level.add ⟨some e, pending⟩ operand = ⟨some (f e), none⟩ := by
  cases operand with
  | none => exact ⟨id, Function.injective_id, fun _ => rfl⟩
  | some g => exact ⟨_, Connective.join_injective (pending.getD .and) g, fun _ => rfl⟩

theorem exists_add_some_eq (l : Level) :
    ∃ f : Expr → Expr, Function.Injective f ∧ ∀ e, l.add (some e) = ⟨some (f e), none⟩ := by
  obtain ⟨tree, pending⟩ := l
  cases tree with
  | none => exact ⟨id, Function.injective_id, fun _ => rfl⟩
  | some g => exact ⟨_, Connective.join_injective_right (pending.getD .and) g, fun _ => rfl⟩

end Level

namespace Builder

/-- The groups that are open keep apart what the innermost one holds. -/
theorem injective_finish (pending : Option Connective) (outer : List (Level × Bool)) :
    Function.Injective fun e => finish ⟨⟨some e, pending⟩, outer⟩ := by
  induction outer generalizing pending with
  | nil => exact fun e e' same => Option.some.inj same
  | cons top rest ih =>
    obtain ⟨f, injective, added⟩ := top.1.exists_add_some_eq
    have closed (e : Expr) : finish ⟨⟨some e, pending⟩, top :: rest⟩ =
        finish ⟨⟨some (f (wrap top.2 e)), none⟩, rest⟩ := by
      rw [← added]
      rfl
    simp only [closed]
    exact (ih none).comp (injective.comp (wrap_injective top.2))

theorem injective_finish_foldl (tokens : List Token) (pending : Option Connective)
    (outer : List (Level × Bool)) :
    Function.Injective fun e => (tokens.foldl feed ⟨⟨some e, pending⟩, outer⟩).finish := by
  -- A group inside is read to its end at once, so that the induction is on the number of tokens.
  obtain ⟨n, h⟩ : ∃ n, tokens.length = n := ⟨_, rfl⟩
  induction n using Nat.strongRecOn generalizing tokens pending outer with
  | ind n ih =>
    cases tokens with
    | nil => exact injective_finish pending outer
    | cons t rest =>
      have shorter : rest.length < n := by simp [← h]
      simp only [List.foldl_cons]
      cases t.role with
      | operator ht =>
        simp only [feed_operator ht]
        exact ih _ shorter rest _ outer rfl
      | opening ht =>
        obtain ⟨operand, rest', le, -, read⟩ := finish_opened ht rest
        obtain ⟨f, injective, added⟩ :=
          Level.exists_add_eq pending (operand.map (wrap t.negated))
        simp only [read, added]
        exact (ih _ (Nat.lt_of_le_of_lt le shorter) rest' none outer rfl).comp injective
      | closing ht =>
        cases outer with
        | nil =>
          simp only [feed_stray ht]
          exact ih _ shorter rest pending [] rfl
        | cons top outer =>
          obtain ⟨f, injective, added⟩ := top.1.exists_add_some_eq
          have read (e : Expr) : feed ⟨⟨some e, pending⟩, top :: outer⟩ t =
              ⟨⟨some (f (wrap top.2 e)), none⟩, outer⟩ := by
            rw [feed_closing ht, ← added]
            rfl
          simp only [read]
          exact (ih _ shorter rest none outer rfl).comp (injective.comp (wrap_injective top.2))
      | term ht =>
        obtain ⟨f, injective, added⟩ := Level.exists_add_eq pending (some (termOf t))
        simp only [feed_term ht, added]
        exact (ih _ shorter rest none outer rfl).comp injective

theorem finish_or_ne_and (tokens : List Token) (e f : Expr) (outer : List (Level × Bool)) :
    (tokens.foldl feed ⟨⟨some (.or e f), none⟩, outer⟩).finish ≠
      (tokens.foldl feed ⟨⟨some (.and e f), none⟩, outer⟩).finish := by
  intro same
  cases injective_finish_foldl tokens none outer same

/-- An OR that waits is told from none just by an operand on its right. -/
theorem finish_or_eq_iff (tokens : List Token) (e : Expr) (outer : List (Level × Bool)) :
    (tokens.foldl feed ⟨⟨some e, some .or⟩, outer⟩).finish =
        (tokens.foldl feed ⟨⟨some e, none⟩, outer⟩).finish ↔
      beginsOperand outer.length tokens = false := by
  induction tokens with
  | nil => cases outer <;> simp [beginsOperand, finish, Level.addGroup]
  | cons t rest ih =>
    simp only [List.foldl_cons]
    rw [beginsOperand]
    cases t.role with
    | operator ht =>
      rw [feed_operator ht, feed_operator ht, if_neg (by simp [Token.isTerm_of_operator ht]),
        if_neg (by simp [Token.isOpening_of_operator ht]), Token.isClosing_of_operator ht]
      exact iff_of_true rfl rfl
    | opening ht =>
      obtain ⟨operand, rest', -, filled, read⟩ := finish_opened ht rest
      rw [read, read, if_neg (by simp [Token.isTerm_of_opening ht]), if_pos ht, ← filled]
      cases operand with
      | none => exact iff_of_true rfl rfl
      | some g => exact iff_of_false (finish_or_ne_and rest' e _ outer) (by simp)
    | closing ht =>
      rw [if_neg (by simp [Token.isTerm_of_closing ht]),
        if_neg (by simp [Token.isOpening_of_closing ht]), ht]
      cases outer with
      | nil =>
        rw [feed_stray ht, feed_stray ht, ih]
        simp
      | cons top outer =>
        rw [feed_closing ht, feed_closing ht]
        exact iff_of_true rfl rfl
    | term ht =>
      rw [feed_term ht, feed_term ht, if_pos ht]
      exact iff_of_false (finish_or_ne_and rest e (termOf t) outer) (by simp)

end Builder

end Injective

theorem Builder.feed_pair {o c : Token} (opening : o.isOpening = true)
    (closing : c.isClosing = true) (b : Builder) :
    (b.feed o).feed c = ⟨⟨b.current.tree, none⟩, b.outer⟩ := by
  obtain ⟨⟨tree, pending⟩, outer⟩ := b
  rw [feed_opening opening, feed_closing closing]
  cases tree <;> rfl

theorem Builder.finish_feed_and {t : Token} (operator : t.kind = .operator)
    (and : Connective.ofText t.value = .and) (b : Builder) (tokens : List Token) :
    (tokens.foldl feed (b.feed t)).finish =
      (tokens.foldl feed ⟨⟨b.current.tree, none⟩, b.outer⟩).finish := by
  have alike : Level.Alike ⟨b.current.tree, some .and⟩ ⟨b.current.tree, none⟩ := ⟨rfl, .inr rfl⟩
  rw [feed_operator operator, and]
  exact (alike_of_current alike b.outer).finish_foldl tokens

theorem Level.alike_of_idle {l : Level} (idle : ¬∃ e, l = ⟨some e, some .or⟩) :
    Alike ⟨l.tree, none⟩ l := by
  obtain ⟨tree, pending⟩ := l
  refine ⟨rfl, ?_⟩
  cases tree with
  | none => exact .inl rfl
  | some e =>
    right
    match pending with
    | none => rfl
    | some .and => rfl
    | some .or => exact absurd ⟨e, rfl⟩ idle

/-- An empty group is an AND. It may go just if no OR waits before it for an operand behind it. -/
theorem empty_group_vanishes_iff {o c : Token} (opening : o.isOpening = true)
    (closing : c.isClosing = true) (before after : List Token) :
    build (before ++ o :: c :: after) =
      build (before ++ .plain .operator "AND" false :: after) ∧
    (build (before ++ o :: c :: after) = build (before ++ after) ↔
      ¬(OrWaits before ∧ beginsOperand (openGroups before) after = true)) := by
  have emptied : build (before ++ o :: c :: after) =
      (after.foldl Builder.feed ⟨⟨(before.foldl Builder.feed .start).current.tree, none⟩,
        (before.foldl Builder.feed .start).outer⟩).finish := by
    rw [build_append, List.foldl_cons, List.foldl_cons, Builder.feed_pair opening closing]
  rw [emptied, build_append, build_append, List.foldl_cons, Builder.finish_feed_and rfl rfl]
  refine ⟨rfl, ?_⟩
  -- Both sides now read `after` from one builder, without and with its last operator.
  have depth := Builder.length_outer_start before
  rw [orWaits_iff, ← depth]
  generalize before.foldl Builder.feed .start = b
  obtain ⟨l, outer⟩ := b
  by_cases waits : ∃ e, l = ⟨some e, some .or⟩
  · obtain ⟨e, rfl⟩ := waits
    rw [eq_comm, Builder.finish_or_eq_iff]
    simp
  · have alike := Builder.alike_of_current (Level.alike_of_idle waits) outer
    exact iff_of_true (alike.finish_foldl after) fun both => waits both.1

/-- In `a OR NOT () ( OR )` an OR waits, but no operand follows. -/
theorem empty_group_vanishes_before_another :
    let operator : Token := .plain .operator "OR" false
    let group (v : String) (negated : Bool) : Token := .plain .group v negated
    let before := [.ofRun ['a'] false, operator]
    let after := [group "(" false, operator, group ")" false]
    (group "(" true).isOpening = true ∧ (group ")" false).isClosing = true ∧ OrWaits before ∧
      build (before ++ group "(" true :: group ")" false :: after) = build (before ++ after) ∧
      build (before ++ after) = some (.term ⟨none, "a", false⟩) := by
  intro operator group before after
  have vanishes := (empty_group_vanishes_iff (o := group "(" true) (c := group ")" false) rfl rfl
    before after).2
  exact ⟨rfl, rfl, by decide, vanishes.mpr (by decide), by decide⟩

/-- The OR of `a OR () b` is lost: with the empty group both words are asked for. -/
theorem or_lost_at_empty_group :
    let operator : Token := .plain .operator "OR" false
    let group (v : String) : Token := .plain .group v false
    let before := [.ofRun ['a'] false, operator]
    let after := [.ofRun ['b'] false]
    let a : Expr := .term ⟨none, "a", false⟩
    let b : Expr := .term ⟨none, "b", false⟩
    (parse "a OR () b").tokens = before ++ group "(" :: group ")" :: after ∧
      build (before ++ group "(" :: group ")" :: after) = some (.and a b) ∧
      build (before ++ after) = some (.or a b) := by
  decide +kernel

end Dossier.Query
