import Dossier.Proofs.Query.Builder
import Dossier.Proofs.Query.Occurrence
import Dossier.Proofs.Query.Token

/-!
The terms that a query asks for, and not against. In the expression these are the terms under no
negation. The text for near misses goes by the tokens alone: it leaves out the terms that are
negated themselves, and keeps those of a group that is negated as a whole.
-/

namespace Dossier.Query

namespace Expr

def positives (e : Expr) : List Term :=
  (e.occurrences.filter Occurrence.isPositive).map Occurrence.term

theorem positives_within (e : Expr) (places : List Occurrence) :
    ((places.map (Occurrence.within e)).filter Occurrence.isPositive).map Occurrence.term =
      if e.isNot then [] else (places.filter Occurrence.isPositive).map Occurrence.term := by
  have terms : Occurrence.term ∘ Occurrence.within e = Occurrence.term := rfl
  have positive : Occurrence.isPositive ∘ Occurrence.within e =
      fun o => !e.isNot && o.isPositive := rfl
  rw [List.filter_map, List.map_map, terms, positive]
  cases e.isNot with
  | true => simp
  | false => simp

theorem positives_group (e : Expr) : (group e).positives = e.positives :=
  positives_within (group e) e.occurrences

theorem positives_not (e : Expr) : (Expr.not e).positives = [] :=
  positives_within (.not e) e.occurrences

theorem positives_and (e f : Expr) : (and e f).positives = e.positives ++ f.positives := by
  rw [positives, occurrences, positives_within]
  simp [isNot, positives]

theorem positives_or (e f : Expr) : (or e f).positives = e.positives ++ f.positives := by
  rw [positives, occurrences, positives_within]
  simp [isNot, positives]

end Expr

def Token.isAsked (t : Token) : Bool := t.isTerm && !t.negated

/-- The negations of the groups that are open after a token, from the inside out. -/
def negationsAfter (negations : List Bool) (t : Token) : List Bool :=
  if t.isOpening then t.negated :: negations
  else if t.isClosing then negations.tail else negations

def openNegations (tokens : List Token) : List Bool := tokens.foldl negationsAfter []

/-- The tokens that ask for a term, if groups with the given negations are open before them. -/
def positiveTokens (negations : List Bool) : List Token → List Token
  | [] => []
  | t :: rest =>
    let later := positiveTokens (negationsAfter negations t) rest
    if t.isAsked = true ∧ true ∉ negations then t :: later else later

namespace Level

def positives (l : Level) : List Term := l.tree.elim [] Expr.positives

theorem positives_empty : Level.empty.positives = [] := rfl

theorem positives_add (l : Level) (operand : Option Expr) :
    (l.add operand).positives = l.positives ++ operand.elim [] Expr.positives :=
  l.elim_add Expr.positives_and Expr.positives_or operand

theorem positives_addGroup (outer inner : Level) (negated : Bool) :
    (outer.addGroup inner negated).positives =
      outer.positives ++ if negated then [] else inner.positives := by
  obtain ⟨tree, pending⟩ := inner
  rw [addGroup, positives_add]
  cases tree with
  | none => cases negated <;> rfl
  | some e =>
    cases negated with
    | false => exact congrArg _ (Expr.positives_group e)
    | true => exact congrArg _ (Expr.positives_not (.group e))

end Level

namespace Builder

/-- What open groups hold of positive terms, the outermost first, if the innermost of them holds
these around it. -/
def positivesAround (inner : List Term) : List (Level × Bool) → List Term
  | [] => inner
  | top :: outer => positivesAround (top.1.positives ++ if top.2 then [] else inner) outer

def positives (b : Builder) : List Term := positivesAround b.current.positives b.outer

def negations (b : Builder) : List Bool := b.outer.map (·.2)

theorem positivesAround_append (inner more : List Term) (outer : List (Level × Bool)) :
    positivesAround (inner ++ more) outer =
      positivesAround inner outer ++ if true ∈ outer.map (·.2) then [] else more := by
  induction outer generalizing inner more with
  | nil => simp [positivesAround]
  | cons top rest ih =>
    obtain ⟨l, negated⟩ := top
    rw [List.map_cons, positivesAround, positivesAround]
    -- What is added inside passes through each open group, and a negated one lets nothing out.
    cases negated with
    | true => simp
    | false =>
      have outside : true ∈ false :: rest.map (·.2) ↔ true ∈ rest.map (·.2) := by simp
      simp only [Bool.false_eq_true, if_false, ← List.append_assoc, ih, outside]

theorem negations_feed (b : Builder) (t : Token) :
    (b.feed t).negations = negationsAfter b.negations t := by
  obtain ⟨l, outer⟩ := b
  unfold negationsAfter
  cases t.role with
  | operator h =>
    simp [feed_operator h, Token.isOpening_of_operator h, Token.isClosing_of_operator h, negations]
  | opening h => simp [feed_opening h, h, negations]
  | closing h =>
    rw [if_neg (by simp [Token.isOpening_of_closing h]), if_pos h]
    cases outer with
    | nil => rw [feed_stray h]; rfl
    | cons top rest => rw [feed_closing h]; rfl
  | term h => simp [feed_term h, Token.isOpening_of_term h, Token.isClosing_of_term h, negations]

theorem positives_of_group (l l' : Level) (n : Bool) (outer : List (Level × Bool)) :
    positives ⟨l, (l', n) :: outer⟩ = positives ⟨l'.addGroup l n, outer⟩ := by
  rw [positives, positives, positivesAround, Level.positives_addGroup]

theorem positives_termOf (t : Token) :
    (termOf t).positives = if t.negated then [] else [t.condition] := by
  unfold termOf
  cases t.negated with
  | false => rfl
  | true => rfl

theorem positives_feed (b : Builder) (t : Token) :
    (b.feed t).positives = b.positives ++
      if t.isAsked = true ∧ true ∉ b.negations then [t.condition] else [] := by
  obtain ⟨l, outer⟩ := b
  unfold Token.isAsked
  cases t.role with
  | operator h =>
    rw [feed_operator h, Token.isTerm_of_operator h]
    exact (List.append_nil _).symm
  | opening h =>
    -- An open group that holds nothing yet counts as one that is closed.
    rw [feed_opening h, Token.isTerm_of_opening h, positives_of_group]
    simp [positives, Level.positives_addGroup, Level.positives_empty]
  | closing h =>
    rw [Token.isTerm_of_closing h]
    cases outer with
    | nil =>
      rw [feed_stray h]
      exact (List.append_nil _).symm
    | cons top rest =>
      rw [feed_closing h, positives_of_group]
      exact (List.append_nil _).symm
  | term h =>
    have added : (some (termOf t)).elim [] Expr.positives =
        if t.negated then [] else [t.condition] := positives_termOf t
    rw [feed_term h, h, positives, Level.positives_add, positivesAround_append, added]
    by_cases inside : true ∈ outer.map (·.2)
    · simp [positives, negations, inside]
    · cases t.negated with
      | true => simp [positives]
      | false => simp [positives, negations, inside]

theorem positives_foldl (tokens : List Token) (b : Builder) :
    (tokens.foldl feed b).positives =
      b.positives ++ (positiveTokens b.negations tokens).map Token.condition := by
  induction tokens generalizing b with
  | nil => simp [positiveTokens]
  | cons t rest ih =>
    rw [List.foldl_cons, ih, positives_feed, negations_feed, List.append_assoc, positiveTokens]
    split
    · rfl
    · rfl

theorem positives_finish (b : Builder) : b.finish.elim [] Expr.positives = b.positives :=
  apply_finish (·.elim [] Expr.positives) (fun _ => rfl) positives_of_group b

end Builder

/-- The positive terms of an expression are those of the tokens that are neither negated themselves
nor in a negated group. -/
theorem positives_build (tokens : List Token) :
    (build tokens).elim [] Expr.positives = (positiveTokens [] tokens).map Token.condition := by
  rw [build, Builder.positives_finish, Builder.positives_foldl]
  rfl

section Hidden

variable (negations : List Bool) (tokens : List Token)

def NoneHidden : Prop :=
  ∀ before t after, tokens = before ++ t :: after → t.isAsked = true →
    true ∉ before.foldl negationsAfter negations

theorem noneHidden_cons (t : Token) (rest : List Token) :
    NoneHidden negations (t :: rest) ↔
      (t.isAsked = true → true ∉ negations) ∧ NoneHidden (negationsAfter negations t) rest := by
  constructor
  · intro h
    refine ⟨h [] t rest rfl, fun before u after eq => ?_⟩
    exact h (t :: before) u after (congrArg (t :: ·) eq)
  · rintro ⟨first, later⟩ before u after eq
    cases before with
    | nil =>
      cases eq
      exact first
    | cons v before =>
      cases eq
      exact later before u after rfl

theorem positiveTokens_sublist :
    (positiveTokens negations tokens).Sublist (tokens.filter Token.isAsked) := by
  induction tokens generalizing negations with
  | nil => exact .slnil
  | cons t rest ih =>
    have later := ih (negationsAfter negations t)
    rw [positiveTokens]
    by_cases asked : t.isAsked = true
    · rw [List.filter_cons_of_pos asked]
      split
      · exact later.cons_cons t
      · exact later.cons t
    · rw [List.filter_cons_of_neg asked, if_neg fun both => asked both.1]
      exact later

theorem positiveTokens_eq_filter_iff :
    positiveTokens negations tokens = tokens.filter Token.isAsked ↔
      NoneHidden negations tokens := by
  induction tokens generalizing negations with
  | nil => simp [positiveTokens, NoneHidden]
  | cons t rest ih =>
    rw [noneHidden_cons, ← ih, positiveTokens]
    by_cases asked : t.isAsked = true
    · by_cases inside : true ∈ negations
      · have shorter := (positiveTokens_sublist (negationsAfter negations t) rest).length_le
        rw [List.filter_cons_of_pos asked, if_neg fun both => both.2 inside]
        refine iff_of_false (fun same => ?_) fun both => both.1 asked inside
        rw [same] at shorter
        exact absurd shorter (by simp)
      · rw [List.filter_cons_of_pos asked, if_pos ⟨asked, inside⟩, List.cons_inj_right]
        exact (and_iff_right fun _ => inside).symm
    · rw [List.filter_cons_of_neg asked, if_neg fun both => asked both.1]
      exact (and_iff_right fun h => absurd h asked).symm

end Hidden

theorem le_length_intercalate {α : Type} (separator xs : List α) (rest : List (List α)) :
    xs.length + (separator.intercalate rest).length ≤
      (separator.intercalate (xs :: rest)).length := by
  cases rest with
  | nil => simp
  | cons ys rest =>
    rw [List.intercalate_cons_of_ne_nil (List.cons_ne_nil _ _)]
    simp

theorem length_intercalate_lt {α : Type} (separator : List α) {xss yss : List (List α)}
    (h : xss.Sublist yss) (ne : xss ≠ yss) (filled : ∀ ys ∈ yss, ys ≠ []) :
    (separator.intercalate xss).length < (separator.intercalate yss).length := by
  induction h with
  | slnil => exact absurd rfl ne
  | @cons xss yss ys _ ih =>
    obtain ⟨first, later⟩ := List.forall_mem_cons.mp filled
    have atMost : (separator.intercalate xss).length ≤ (separator.intercalate yss).length := by
      by_cases same : xss = yss
      · rw [same]
      · exact Nat.le_of_lt (ih same later)
    have positive := List.length_pos_iff.mpr first
    have onward := le_length_intercalate separator ys yss
    omega
  | @cons_cons xss yss ys _ ih =>
    have shorter := ih (fun same => ne (congrArg (ys :: ·) same)) (List.forall_mem_cons.mp filled).2
    have onward := le_length_intercalate separator ys yss
    -- A last text has no separator behind it, which only makes the difference greater.
    cases xss with
    | nil =>
      simp only [List.intercalate_nil, List.length_nil] at shorter
      rw [List.intercalate_singleton]
      omega
    | cons xs xss =>
      have filled' : yss ≠ [] := by
        rintro rfl
        simp at shorter
      rw [List.intercalate_cons_of_ne_nil (List.cons_ne_nil _ _),
        List.intercalate_cons_of_ne_nil filled']
      simpa using shorter

theorem eq_of_intercalate_eq {xs ys : List String} (separator : String) (h : xs.Sublist ys)
    (filled : ∀ y ∈ ys, y.toList ≠ [])
    (same : separator.intercalate xs = separator.intercalate ys) : xs = ys := by
  by_cases equal : xs.map String.toList = ys.map String.toList
  · exact (List.map_inj_right fun _ _ => String.toList_inj.mp).mp equal
  · have shorter := length_intercalate_lt separator.toList (h.map String.toList) equal
      (List.forall_mem_map.mpr filled)
    rw [← String.toList_intercalate, ← String.toList_intercalate, same] at shorter
    exact absurd shorter (Nat.lt_irrefl _)

theorem Expressible.value_ne_nil {q : Term} (h : Expressible q) : q.value.toList ≠ [] := by
  cases h with
  | word word => exact word.1.1
  | phrase phrase => exact phrase.1
  | field _ value => exact value.1.1
  | quotedField _ phrase => exact phrase.1

/-- The text for near misses says what the expression asks for just if every term that is not
negated itself stands in no negated group. -/
theorem positiveText_eq_iff (text : String) :
    (parse text).positiveText =
        " ".intercalate (((build (parse text).tokens).elim [] Expr.positives).map (·.value)) ↔
      ∀ before t after, (parse text).tokens = before ++ t :: after → t.isAsked = true →
        true ∉ openNegations before := by
  have said : (parse text).positiveText =
      " ".intercalate (((parse text).tokens.filter Token.isAsked).map Token.value) := rfl
  have filled : ∀ v ∈ ((parse text).tokens.filter Token.isAsked).map Token.value,
      v.toList ≠ [] := by
    refine List.forall_mem_map.mpr fun t mem => ?_
    obtain ⟨mem, asked⟩ := List.mem_filter.mp mem
    have term : t.isTerm = true := (Bool.and_eq_true_iff.mp asked).1
    exact (expressible_of_mem_parse mem term).value_ne_nil
  have few := positiveTokens_sublist [] (parse text).tokens
  rw [said, positives_build, List.map_map]
  refine Iff.trans ?_ (positiveTokens_eq_filter_iff [] (parse text).tokens)
  constructor
  · intro same
    have values := eq_of_intercalate_eq " " (few.map Token.value) filled same.symm
    refine few.eq_of_length ?_
    simpa using congrArg List.length values
  · intro same
    rw [same]
    rfl

/-- A word in a negated group is left in the text for near misses. -/
theorem negated_group_in_positiveText :
    let a : Term := ⟨none, "active", false⟩
    let b : Term := ⟨none, "suspect", false⟩
    let q := parse "active NOT (suspect)"
    build q.tokens = some (.and (.term a) (.not (.group (.term b)))) ∧
      " ".intercalate (((build q.tokens).elim [] Expr.positives).map (·.value)) = "active" ∧
      q.positiveText = "active suspect" := by
  decide +kernel

end Dossier.Query
