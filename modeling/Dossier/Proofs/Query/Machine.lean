import Dossier.Proofs.Match.Meaning
import Dossier.Proofs.Query.Descent
import Dossier.Query.Parse

/-!
The flat reading of a query. A machine goes over the tokens once, from left to right, and keeps for
each open group a running Boolean and the last operator. Where no group is empty, it ends with the
value of the expression that the tokens build, for every target whose evaluation does not abort
(`Plan.aborts`).
-/

namespace Dossier.Query

def Connective.apply : Connective → Bool → Bool → Bool
  | .and => Bool.and
  | .or => Bool.or

/-- An open group; `negate` says that its value is inverted when it closes. -/
structure Frame where
  running : Option Bool
  pending : Option Connective
  negate : Bool
  deriving DecidableEq, Repr

/-- The innermost open group, and those around it from the inside out. -/
structure Machine where
  current : Frame
  outer : List Frame
  deriving DecidableEq, Repr

namespace Frame

def fresh (negate : Bool) : Frame := ⟨none, none, negate⟩

/-- Takes in a value by the pending operator, which is used up. -/
def combine (f : Frame) (b : Bool) : Frame :=
  match f.running with
  | none => ⟨some b, none, f.negate⟩
  | some a => ⟨some ((f.pending.getD .and).apply a b), none, f.negate⟩

def closed (vacant : Bool) (f : Frame) : Bool := f.negate ^^ f.running.getD vacant

end Frame

namespace Machine

variable (truth : Term → Bool) (vacant : Bool)

def start : Machine := ⟨.fresh false, []⟩

def step (m : Machine) (t : Token) : Machine :=
  match t.kind with
  | .operator => { m with current.pending := some (.ofText t.value) }
  | .group =>
    if t.value = ")" then
      match m.outer with
      | [] => m
      | f :: rest => ⟨f.combine (m.current.closed vacant), rest⟩
    else ⟨.fresh t.negated, m.current :: m.outer⟩
  | .word | .phrase | .field =>
    { m with current := m.current.combine (t.negated ^^ truth t.condition) }

def finish (m : Machine) : Option Bool :=
  (m.outer.foldl (fun inner f => f.combine (inner.closed vacant)) m.current).running

def run (tokens : List Token) : Option Bool := (tokens.foldl (step truth vacant) start).finish vacant

section Step

variable {m : Machine} {t : Token}

theorem step_operator (h : t.kind = .operator) :
    m.step truth vacant t = { m with current.pending := some (.ofText t.value) } := by
  simp [step, h]

theorem step_opening (h : t.isOpening = true) :
    m.step truth vacant t = ⟨.fresh t.negated, m.current :: m.outer⟩ := by
  obtain ⟨kind, value⟩ := Token.isOpening_iff.mp h
  simp [step, kind, value]

theorem step_stray (h : t.isClosing = true) (f : Frame) :
    step truth vacant ⟨f, []⟩ t = ⟨f, []⟩ := by
  obtain ⟨kind, value⟩ := Token.isClosing_iff.mp h
  simp [step, kind, value]

theorem step_closing (h : t.isClosing = true) (f f' : Frame) (rest : List Frame) :
    step truth vacant ⟨f, f' :: rest⟩ t = ⟨f'.combine (f.closed vacant), rest⟩ := by
  obtain ⟨kind, value⟩ := Token.isClosing_iff.mp h
  simp [step, kind, value]

theorem step_term (h : t.isTerm = true) :
    m.step truth vacant t =
      { m with current := m.current.combine (t.negated ^^ truth t.condition) } := by
  unfold Token.isTerm TokenKind.isTerm at h
  cases kind : t.kind <;> simp_all [step]

end Step

end Machine

/-- The tokens of a group, from behind its opening parenthesis to the matching closing one or to the
end; `depth` groups are open inside it. -/
def interior (depth : Nat) : List Token → List Token
  | [] => []
  | t :: rest =>
    if t.isOpening then t :: interior (depth + 1) rest
    else if t.isClosing then if depth = 0 then [] else t :: interior (depth - 1) rest
    else t :: interior depth rest

def GroupsFilled (tokens : List Token) : Prop :=
  ∀ before t after, tokens = before ++ t :: after → t.isOpening = true →
    ∃ u ∈ interior 0 after, u.isTerm = true

theorem groupsFilled_cons {t : Token} {rest : List Token} :
    GroupsFilled (t :: rest) ↔
      (t.isOpening = true → ∃ u ∈ interior 0 rest, u.isTerm = true) ∧ GroupsFilled rest := by
  constructor
  · intro h
    refine ⟨h [] t rest rfl, ?_⟩
    intro before u after eq
    exact h (t :: before) u after (by rw [eq]; rfl)
  · rintro ⟨first, h⟩ before u after eq
    cases before with
    | nil =>
      obtain ⟨rfl, rfl⟩ := List.cons.inj eq
      exact first
    | cons _ before => exact h before u after (List.cons.inj eq).2

instance decidableGroupsFilled : (tokens : List Token) → Decidable (GroupsFilled tokens)
  | [] => isTrue fun before _ _ eq => by cases before <;> cases eq
  | _ :: rest =>
    have := decidableGroupsFilled rest
    decidable_of_iff _ groupsFilled_cons.symm

section Interior

variable {t : Token} {rest : List Token}

theorem interior_opening (h : t.isOpening = true) (depth : Nat) :
    interior depth (t :: rest) = t :: interior (depth + 1) rest := by
  rw [interior, if_pos h]

theorem interior_closing (h : t.isClosing = true) : interior 0 (t :: rest) = [] := by
  rw [interior, if_neg (by simp [Token.isOpening_of_closing h]), if_pos h, if_pos rfl]

theorem interior_operator (h : t.kind = .operator) (depth : Nat) :
    interior depth (t :: rest) = t :: interior depth rest := by
  rw [interior, if_neg (by simp [Token.isOpening_of_operator h]),
    if_neg (by simp [Token.isClosing_of_operator h])]

end Interior

/-- Each open group holds something already, has a group inside that does, or has a term to come
among the remaining tokens. `depth` groups inside the first of them are still empty. -/
def Awaits (rest : List Token) (depth : Nat) (l : Level) : List (Level × Bool) → Prop
  | [] => True
  | (l', _) :: outer =>
    l.tree.isSome = true ∨
      ((∃ u ∈ interior depth rest, u.isTerm = true) ∧ Awaits rest (depth + 1) l' outer)

theorem awaits_of_isSome {l : Level} (h : l.tree.isSome = true) (rest : List Token) (depth : Nat)
    (outer : List (Level × Bool)) : Awaits rest depth l outer := by
  cases outer with
  | nil => trivial
  | cons top outer => exact .inl h

theorem Awaits.holds {rest : List Token} {l : Level} {top : Level × Bool}
    {outer : List (Level × Bool)} (h : Awaits rest 0 l (top :: outer))
    (ends : interior 0 rest = []) : l.tree.isSome = true := by
  rcases h with h | ⟨⟨u, hu, _⟩, _⟩
  · exact h
  · rw [ends] at hu
    cases hu

/-- Only the tree of a level matters here, and only the terms of the interiors. -/
theorem Awaits.next {rest rest' : List Token} {depth depth' : Nat} {l l' : Level}
    {outer : List (Level × Bool)} (h : Awaits rest depth l outer) (tree : l'.tree = l.tree)
    (keeps : ∀ k, (∃ u ∈ interior (depth + k) rest, u.isTerm = true) →
      ∃ u ∈ interior (depth' + k) rest', u.isTerm = true) :
    Awaits rest' depth' l' outer := by
  induction outer generalizing depth depth' l l' with
  | nil => trivial
  | cons top outer ih =>
    rcases h with h | ⟨later, h⟩
    · exact .inl (tree ▸ h)
    · refine .inr ⟨keeps 0 later, ih h rfl fun k hk => ?_⟩
      have shift : ∀ d, d + 1 + k = d + (k + 1) := fun d => by omega
      rw [shift] at hk ⊢
      exact keeps (k + 1) hk

theorem awaits_feed {t : Token} {rest : List Token} {b : Builder}
    (filled : GroupsFilled (t :: rest)) (h : Awaits (t :: rest) 0 b.current b.outer) :
    Awaits rest 0 (b.feed t).current (b.feed t).outer := by
  obtain ⟨l, outer⟩ := b
  cases t.role with
  | operator ht =>
    rw [Builder.feed_operator ht]
    refine h.next rfl fun k ⟨u, hu, term⟩ => ?_
    rw [interior_operator ht] at hu
    rcases List.mem_cons.mp hu with rfl | hu
    · rw [Token.isTerm_of_operator ht] at term
      cases term
    · exact ⟨u, hu, term⟩
  | opening ht =>
    rw [Builder.feed_opening ht]
    refine .inr ⟨(groupsFilled_cons.mp filled).1 ht, h.next rfl fun k ⟨u, hu, term⟩ => ?_⟩
    rw [interior_opening ht] at hu
    rcases List.mem_cons.mp hu with rfl | hu
    · rw [Token.isTerm_of_opening ht] at term
      cases term
    · exact ⟨u, by rwa [Nat.add_right_comm] at hu, term⟩
  | closing ht =>
    cases outer with
    | nil => rw [Builder.feed_stray ht]; trivial
    | cons top outer =>
      have holds := h.holds (interior_closing ht)
      rw [Builder.feed_closing ht]
      exact awaits_of_isSome (by simp [Level.isSome_addGroup, holds]) _ _ _
  | term ht =>
    rw [Builder.feed_term ht]
    exact awaits_of_isSome (by simp [Level.isSome_add]) _ _ _

def Frame.Reads (truth : Term → Bool) (f : Frame) (l : Level) : Prop :=
  f.running = l.tree.map (·.value truth) ∧ f.pending = l.pending

/-- The frames of a machine agree with the groups of a builder, and invert what these negate. -/
inductive Simulates (truth : Term → Bool) : Frame → List Frame → Level → List (Level × Bool) → Prop
  | root {f l} : f.Reads truth l → Simulates truth f [] l []
  | group {f l f' outer l' n rest} : f.Reads truth l → f.negate = n →
      Simulates truth f' outer l' rest → Simulates truth f (f' :: outer) l ((l', n) :: rest)

variable {truth : Term → Bool} {vacant : Bool}

theorem Frame.Reads.combine {f : Frame} {l : Level} (h : f.Reads truth l) (e : Expr) :
    (f.combine (e.value truth)).Reads truth (l.add (some e)) := by
  obtain ⟨tree, pending⟩ := l
  obtain ⟨running, pending', negate⟩ := f
  obtain ⟨hr, hp⟩ := h
  change running = tree.map _ at hr
  change pending' = pending at hp
  subst hr hp
  cases tree with
  | none => exact ⟨rfl, rfl⟩
  | some a =>
    refine ⟨?_, rfl⟩
    cases pending' with
    | none => rfl
    | some op => cases op <;> rfl

theorem Frame.negate_combine (f : Frame) (b : Bool) : (f.combine b).negate = f.negate := by
  unfold combine
  split <;> rfl

theorem value_wrap (negated : Bool) (e : Expr) :
    (wrap negated e).value truth = (negated ^^ e.value truth) := by
  cases negated <;> simp [wrap, Expr.value]

theorem value_termOf (t : Token) :
    (Builder.termOf t).value truth = (t.negated ^^ truth t.condition) := by
  unfold Builder.termOf
  cases t.negated <;> simp [Expr.value, Token.condition]

namespace Simulates

variable {f f' : Frame} {frames : List Frame} {l l' : Level} {outer : List (Level × Bool)}

theorem reads (h : Simulates truth f frames l outer) : f.Reads truth l := by
  cases h with
  | root h => exact h
  | group h _ _ => exact h

theorem update (h : Simulates truth f frames l outer) (reads : f'.Reads truth l')
    (negate : f'.negate = f.negate) : Simulates truth f' frames l' outer := by
  cases h with
  | root _ => exact .root reads
  | group _ hn inner => exact .group reads (negate.trans hn) inner

theorem close {n : Bool} {f' : Frame} (reads : f.Reads truth l) (negate : f.negate = n)
    (h : Simulates truth f' frames l' outer) (holds : l.tree.isSome = true) :
    Simulates truth (f'.combine (f.closed vacant)) frames (l'.addGroup l n) outer := by
  obtain ⟨e, he⟩ := Option.isSome_iff_exists.mp holds
  have value : f.closed vacant = (wrap n e).value truth := by
    rw [Frame.closed, reads.1, he, negate, value_wrap]
    rfl
  have added : l'.addGroup l n = l'.add (some (wrap n e)) := by
    rw [Level.addGroup, he]
    rfl
  rw [value, added]
  exact h.update (h.reads.combine _) (Frame.negate_combine _ _)

theorem finish (h : Simulates truth f frames l outer) (awaits : Awaits [] 0 l outer) :
    Machine.finish vacant ⟨f, frames⟩ = (Builder.finish ⟨l, outer⟩).map (·.value truth) := by
  induction outer generalizing f frames l with
  | nil =>
    cases h with
    | root h => exact h.1
  | cons top outer ih =>
    cases h with
    | @group _ _ f' frames l' n _ reads negate inner =>
      have holds := awaits.holds rfl
      have filled : (l'.addGroup l n).tree.isSome = true := by
        rw [Level.isSome_addGroup, holds, Bool.or_true]
      have closed : Simulates truth (f'.combine (f.closed vacant)) frames (l'.addGroup l n) outer :=
        inner.close reads negate holds
      have rest := ih closed (awaits_of_isSome filled _ _ _)
      exact rest

end Simulates

theorem simulates_step {t : Token} {rest : List Token} {m : Machine} {b : Builder}
    (h : Simulates truth m.current m.outer b.current b.outer)
    (awaits : Awaits (t :: rest) 0 b.current b.outer) :
    Simulates truth (m.step truth vacant t).current (m.step truth vacant t).outer
      (b.feed t).current (b.feed t).outer := by
  obtain ⟨f, frames⟩ := m
  obtain ⟨l, outer⟩ := b
  cases t.role with
  | operator ht =>
    rw [Builder.feed_operator ht, Machine.step_operator _ _ ht]
    exact h.update ⟨h.reads.1, rfl⟩ rfl
  | opening ht =>
    rw [Builder.feed_opening ht, Machine.step_opening _ _ ht]
    exact .group ⟨rfl, rfl⟩ rfl h
  | closing ht =>
    cases h with
    | root h =>
      rw [Builder.feed_stray ht, Machine.step_stray _ _ ht]
      exact .root h
    | group reads negate inner =>
      rw [Builder.feed_closing ht, Machine.step_closing _ _ ht]
      exact inner.close reads negate (awaits.holds (interior_closing ht))
  | term ht =>
    rw [Builder.feed_term ht, Machine.step_term _ _ ht, ← value_termOf]
    exact h.update (h.reads.combine _) (Frame.negate_combine _ _)

/-- The invariant of a run: both agree, and no group that will close is left empty. -/
theorem finish_foldl_step {tokens : List Token} {m : Machine} {b : Builder}
    (filled : GroupsFilled tokens) (h : Simulates truth m.current m.outer b.current b.outer)
    (awaits : Awaits tokens 0 b.current b.outer) :
    (tokens.foldl (Machine.step truth vacant) m).finish vacant =
      (tokens.foldl Builder.feed b).finish.map (·.value truth) := by
  induction tokens generalizing m b with
  | nil => exact h.finish awaits
  | cons t rest ih =>
    exact ih (groupsFilled_cons.mp filled).2 (simulates_step h awaits) (awaits_feed filled awaits)

theorem run_eq_value_build (truth : Term → Bool) (vacant : Bool) {tokens : List Token}
    (filled : GroupsFilled tokens) :
    Machine.run truth vacant tokens = (build tokens).map (·.value truth) :=
  finish_foldl_step filled (.root ⟨rfl, rfl⟩) trivial

/-- The recursive descent gives an expression just if there is a term, and its evaluation is matched
just if the machine ends true. -/
theorem build_refines_machine {tokens : List Token} (filled : GroupsFilled tokens) (vacant : Bool)
    (t : Target) (s : Setting) :
    build tokens = descend tokens ∧
    ((build tokens).isSome = true ↔ ∃ u ∈ tokens, u.isTerm = true) ∧
    (build tokens).map (fun e => (e.evaluation t s).matched) =
      Machine.run (Expr.truth t s) vacant tokens := by
  refine ⟨(descend_eq_build tokens).symm, ?_, ?_⟩
  · rw [isSome_build, List.any_eq_true]
  · rw [run_eq_value_build _ _ filled]
    exact congrArg (Option.map · (build tokens)) (funext fun e => e.matched_eq_value)

/-- A negated group that is never closed, with a dangling operator in it. -/
theorem build_refines_machine_open_group :
    let tokens : List Token := [.ofRun ['x'] false, .plain .operator "OR" false,
      .plain .group "(" true, .plain .operator "AND" false, .ofRun ['a'] false,
      .plain .operator "OR" false, .ofRun ['b'] true]
    let target : Target := .leaf "core.name" (.scalar (.text "ab"))
    GroupsFilled tokens ∧
      (build tokens).map (fun e => (e.evaluation target ⟨[], true, 50⟩).matched) = some false := by
  intro tokens target
  have filled : GroupsFilled tokens := by decide
  have refines := (build_refines_machine filled true target ⟨[], true, 50⟩).2.2
  exact ⟨filled, refines.trans (by decide)⟩

end Dossier.Query
