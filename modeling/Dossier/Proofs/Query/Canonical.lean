import Dossier.Proofs.Query.Descent
import Dossier.Proofs.Query.Print

/-!
The expressions that texts give. They lean to the left, and each of them is read back from the text
that it prints.
-/

namespace Dossier.Query

/-- A chain is joined from the left; an atom is what may stand on the right. -/
inductive Layer where
  | atom
  | chain
  deriving DecidableEq, Repr

inductive Canonical : Layer → Expr → Prop
  | term {q : Term} : Expressible q → Canonical .atom (.term q)
  | notTerm {q : Term} : Expressible q → Canonical .atom (.not (.term q))
  | group {e : Expr} : Canonical .chain e → Canonical .atom (.group e)
  | notGroup {e : Expr} : Canonical .chain e → Canonical .atom (.not (.group e))
  | single {e : Expr} : Canonical .atom e → Canonical .chain e
  | and {e f : Expr} : Canonical .chain e → Canonical .atom f → Canonical .chain (.and e f)
  | or {e f : Expr} : Canonical .chain e → Canonical .atom f → Canonical .chain (.or e f)

section Reading

variable {layer : Layer} {e : Expr}

theorem isWritable_of_mem_lexemes (h : Canonical layer e) : ∀ l ∈ e.lexemes, l.IsWritable := by
  have bareNot : Lexeme.IsBare "NOT".toList := by decide
  have bareAnd : Lexeme.IsBare "AND".toList := by decide
  have bareOr : Lexeme.IsBare "OR".toList := by decide
  induction h with
  | term h => simpa [Expr.lexemes] using Term.isWritable_lexeme h
  | notTerm h => simpa [Expr.lexemes] using ⟨bareNot, Term.isWritable_lexeme h⟩
  | group _ ih =>
    refine List.forall_mem_cons.mpr ⟨trivial, List.forall_mem_append.mpr ⟨ih, ?_⟩⟩
    exact List.forall_mem_singleton.mpr trivial
  | notGroup _ ih =>
    refine List.forall_mem_cons.mpr ⟨bareNot, List.forall_mem_cons.mpr ⟨trivial, ?_⟩⟩
    exact List.forall_mem_append.mpr ⟨ih, List.forall_mem_singleton.mpr trivial⟩
  | single _ ih => exact ih
  | and _ _ ihe ihf =>
    exact List.forall_mem_append.mpr ⟨ihe, List.forall_mem_cons.mpr ⟨bareAnd, ihf⟩⟩
  | or _ _ ihe ihf =>
    exact List.forall_mem_append.mpr ⟨ihe, List.forall_mem_cons.mpr ⟨bareOr, ihf⟩⟩

end Reading

namespace Builder

/-- Reads the tokens of some lexemes; `negated` says that a NOT stands before them. -/
def read (b : Builder) (negated : Bool) (ls : List Lexeme) : Builder :=
  (Token.ofLexemes negated ls).foldl feed b

section Read

variable (b : Builder) (negated : Bool) (rest : List Lexeme)

theorem read_term {q : Term} (h : Expressible q) :
    b.read negated (q.lexeme :: rest) =
      read { b with
        current := b.current.add (some (if negated then .not (.term q) else .term q)) } false
          rest := by
  have term : termOf (q.token negated) = if negated then .not (.term q) else .term q := by
    change (if negated then Expr.not (.term (q.token negated).condition) else
      .term (q.token negated).condition) = _
    rw [q.condition_token]
  rw [read, q.ofLexemes_lexeme h, List.foldl_cons, feed_term (q.isTerm_token negated), term]
  rfl

theorem read_open :
    b.read negated (.open :: rest) = read ⟨.empty, (b.current, negated) :: b.outer⟩ false rest := by
  rw [read, Token.ofLexemes, List.foldl_cons, feed_opening rfl]
  rfl

theorem read_close (l l' : Level) (outer : List (Level × Bool)) :
    read ⟨l, (l', negated) :: outer⟩ false (.close :: rest) =
      read ⟨l'.addGroup l negated, outer⟩ false rest := by
  rw [read, Token.ofLexemes, List.foldl_cons, feed_closing rfl]
  rfl

theorem read_not : b.read false (.bare "NOT".toList :: rest) = b.read true rest := by
  rw [read, Token.ofLexemes, if_pos (by decide)]
  rfl

theorem read_and :
    b.read false (.bare "AND".toList :: rest) =
      read { b with current.pending := some .and } false rest := by
  rw [read, Token.ofLexemes, if_neg (by decide), if_pos (by decide), List.foldl_cons,
    feed_operator rfl]
  rfl

theorem read_or :
    b.read false (.bare "OR".toList :: rest) =
      read { b with current.pending := some .or } false rest := by
  rw [read, Token.ofLexemes, if_neg (by decide), if_pos (by decide), List.foldl_cons,
    feed_operator rfl]
  rfl

end Read

end Builder

/-- The tokens of an atom add it to the group that is read; those of a chain fill an empty group. -/
theorem read_lexemes {layer : Layer} {e : Expr} (h : Canonical layer e) (l : Level)
    (outer : List (Level × Bool)) (rest : List Lexeme) (fresh : layer = .chain → l = .empty) :
    Builder.read ⟨l, outer⟩ false (e.lexemes ++ rest) =
      Builder.read ⟨l.add (some e), outer⟩ false rest := by
  induction h generalizing l outer rest with
  | term h => exact Builder.read_term _ _ _ h
  | notTerm h =>
    rw [Expr.lexemes, List.cons_append, Builder.read_not]
    exact Builder.read_term _ _ _ h
  | group _ ih =>
    rw [Expr.lexemes, List.cons_append, List.append_assoc, Builder.read_open, ih _ _ _ fun _ => rfl]
    exact Builder.read_close _ _ _ _ _
  | notGroup _ ih =>
    rw [Expr.lexemes, List.cons_append, Builder.read_not, Expr.lexemes, List.cons_append,
      List.append_assoc, Builder.read_open, ih _ _ _ fun _ => rfl]
    exact Builder.read_close _ _ _ _ _
  | single _ ih => exact ih l outer rest (by rintro ⟨⟩)
  | and _ _ ihe ihf =>
    rw [Expr.lexemes, List.append_assoc, ihe l outer _ fun _ => fresh rfl, List.cons_append,
      Builder.read_and, ihf _ _ _ (by rintro ⟨⟩), fresh rfl]
    rfl
  | or _ _ ihe ihf =>
    rw [Expr.lexemes, List.append_assoc, ihe l outer _ fun _ => fresh rfl, List.cons_append,
      Builder.read_or, ihf _ _ _ (by rintro ⟨⟩), fresh rfl]
    rfl

theorem parse_print {e : Expr} (h : Canonical .chain e) :
    (parse e.print).error = none ∧ build (parse e.print).tokens = some e := by
  have writable := isWritable_of_mem_lexemes h
  have notBlank : Text.isBlankText e.print.toList = false := by
    rw [e.toList_print]
    exact isBlankText_spaced writable e.lexemes_ne_nil
  rw [error_parse, tokens_parse, notBlank, e.toList_print, scan_spaced writable 0]
  refine ⟨rfl, ?_⟩
  have read := read_lexemes h .empty [] [] fun _ => rfl
  rw [List.append_nil] at read
  exact congrArg Builder.finish read

section Building

def Level.IsCanonical (l : Level) : Prop := ∀ e, l.tree = some e → Canonical .chain e

theorem canonical_wrap {e : Expr} (h : Canonical .chain e) (negated : Bool) :
    Canonical .atom (wrap negated e) := by
  cases negated with
  | false => exact .group h
  | true => exact .notGroup h

theorem canonical_termOf {t : Token} (h : Expressible t.condition) :
    Canonical .atom (Builder.termOf t) := by
  unfold Builder.termOf
  cases t.negated with
  | false => exact .term h
  | true => exact .notTerm h

namespace Level.IsCanonical

variable {l outer : Level}

theorem add (h : l.IsCanonical) {operand : Option Expr}
    (atom : ∀ e, operand = some e → Canonical .atom e) : (l.add operand).IsCanonical := by
  obtain ⟨tree, pending⟩ := l
  cases tree with
  | none =>
    intro e he
    exact .single (atom e he)
  | some chain =>
    cases operand with
    | none => exact h
    | some f =>
      rintro e ⟨⟩
      cases pending.getD .and with
      | and => exact .and (h chain rfl) (atom f rfl)
      | or => exact .or (h chain rfl) (atom f rfl)

theorem addGroup (h : outer.IsCanonical) (inner : l.IsCanonical) (negated : Bool) :
    (outer.addGroup l negated).IsCanonical := by
  refine h.add fun e he => ?_
  obtain ⟨chain, tree, rfl⟩ := Option.map_eq_some_iff.mp he
  exact canonical_wrap (inner chain tree) negated

end Level.IsCanonical

namespace Builder

structure IsCanonical (b : Builder) : Prop where
  current : b.current.IsCanonical
  outer : ∀ o ∈ b.outer, o.1.IsCanonical

variable {b : Builder} {t : Token}

theorem isCanonical_start : start.IsCanonical := by
  constructor
  · intro e h
    cases h
  · intro o h
    cases h

theorem IsCanonical.feed (h : b.IsCanonical)
    (expressible : t.isTerm = true → Expressible t.condition) : (b.feed t).IsCanonical := by
  obtain ⟨l, outer⟩ := b
  obtain ⟨current, waiting⟩ := h
  cases t.role with
  | operator ht =>
    rw [feed_operator ht]
    exact ⟨current, waiting⟩
  | opening ht =>
    rw [feed_opening ht]
    exact ⟨isCanonical_start.current, List.forall_mem_cons.mpr ⟨current, waiting⟩⟩
  | closing ht =>
    cases outer with
    | nil =>
      rw [feed_stray ht]
      exact ⟨current, waiting⟩
    | cons top rest =>
      obtain ⟨first, later⟩ := List.forall_mem_cons.mp waiting
      rw [feed_closing ht]
      exact ⟨first.addGroup current top.2, later⟩
  | term ht =>
    rw [feed_term ht]
    refine ⟨current.add ?_, waiting⟩
    rintro e ⟨⟩
    exact canonical_termOf (expressible ht)

theorem IsCanonical.foldl {tokens : List Token} (h : b.IsCanonical)
    (expressible : ∀ t ∈ tokens, t.isTerm = true → Expressible t.condition) :
    (tokens.foldl Builder.feed b).IsCanonical := by
  induction tokens generalizing b with
  | nil => exact h
  | cons t rest ih =>
    obtain ⟨first, later⟩ := List.forall_mem_cons.mp expressible
    exact ih (h.feed first) later

theorem IsCanonical.finish (h : b.IsCanonical) {e : Expr} (built : b.finish = some e) :
    Canonical .chain e := by
  obtain ⟨l, outer⟩ := b
  obtain ⟨current, waiting⟩ := h
  induction outer generalizing l with
  | nil => exact current e built
  | cons top rest ih =>
    obtain ⟨first, later⟩ := List.forall_mem_cons.mp waiting
    exact ih _ built (first.addGroup current top.2) later

end Builder

end Building

/-- Printing and reading are inverse on chains, and a text gives nothing else. -/
theorem canonical_round_trip :
    (∀ e, Canonical .chain e →
      (parse e.print).error = none ∧ build (parse e.print).tokens = some e) ∧
    (∀ text e, build (parse text).tokens = some e → Canonical .chain e) := by
  refine ⟨fun e h => parse_print h, ?_⟩
  intro text e built
  have canonical : ((parse text).tokens.foldl Builder.feed .start).IsCanonical :=
    Builder.isCanonical_start.foldl fun _ mem term => expressible_of_mem_parse mem term
  exact canonical.finish built

/-- A chain with a negated group in it, and with a term of each kind. -/
theorem canonical_round_trip_nested :
    let inner : Expr := .or (.term ⟨some "tags.status", "active", false⟩)
      (.term ⟨some "core.name", "Ann Lee", true⟩)
    let e : Expr := .or (.and (.term ⟨none, "ann*", false⟩) (.not (.group inner)))
      (.not (.term ⟨none, "New York", true⟩))
    Canonical .chain e ∧
      e.print = "ann* AND NOT ( tags.status:active OR core.name:\"Ann Lee\" ) OR " ++
        "NOT \"New York\"" ∧
      (parse e.print).error = none ∧ build (parse e.print).tokens = some e := by
  intro inner e
  have group : Canonical .chain inner :=
    .or (.single (.term (.field (by decide) (by decide))))
      (.term (.quotedField (by decide) (by decide)))
  have chain : Canonical .chain e :=
    .or (.and (.single (.term (.word (by decide)))) (.notGroup group))
      (.notTerm (.phrase (by decide)))
  have read := canonical_round_trip.1 e chain
  exact ⟨chain, by decide +kernel, read.1, read.2⟩

end Dossier.Query
