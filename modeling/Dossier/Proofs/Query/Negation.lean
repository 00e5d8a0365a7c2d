import Dossier.Proofs.Query.Token
import Mathlib.Data.List.Forall2

/-!
From lexemes to tokens, one by one. A NOT and a quoted run of blanks write no token; every other
lexeme writes one, which is negated just if it can be and a NOT stands directly before it.
-/

namespace Dossier.Query

namespace Lexeme

def negation : Lexeme := .bare "NOT".toList

def isSilent : Lexeme → Bool
  | .open | .close => false
  | .quoted _ content => Text.trim content = []
  | .bare run => run = "NOT".toList

inductive Writes : Lexeme → TokenKind → Term → Prop
  | opening : Writes .open .group ⟨none, "(", false⟩
  | closing : Writes .close .group ⟨none, ")", false⟩
  | operator {run} : run ∈ ["AND".toList, "OR".toList] →
      Writes (.bare run) .operator ⟨none, String.ofList run, false⟩
  | word {run} : run ∉ ["AND".toList, "OR".toList, "NOT".toList] →
      (¬∃ field value, SplitsAt field value run) →
      Writes (.bare run) .word ⟨none, String.ofList run, false⟩
  | field {run field value} : SplitsAt field value run →
      Writes (.bare run) .field ⟨some (String.ofList field), String.ofList value, false⟩
  | phrase {content} : Text.trim content ≠ [] →
      Writes (.quoted none content) .phrase ⟨none, String.ofList (Text.trim content), true⟩
  | quotedField {field content} : Text.trim content ≠ [] →
      Writes (.quoted (some field) content) .field
        ⟨some (String.ofList field), String.ofList (Text.trim content), true⟩

end Lexeme

def withPrevious (previous : Option Lexeme) (ls : List Lexeme) : List (Option Lexeme × Lexeme) :=
  (previous :: ls.map some).zip ls

namespace Token

/-- A token stands for a lexeme behind another one. -/
structure StandsFor (place : Option Lexeme × Lexeme) (t : Token) : Prop where
  written : place.2.Writes t.kind t.condition
  negated : t.negated = true ↔
    (t.isTerm = true ∨ t.isOpening = true) ∧ place.1 = some .negation

variable {previous : Option Lexeme}

theorem standsFor_of_isTerm {place : Option Lexeme × Lexeme} {t : Token}
    (written : place.2.Writes t.kind t.condition) (term : t.isTerm = true)
    (negated : t.negated = decide (place.1 = some .negation)) : StandsFor place t := by
  refine ⟨written, ?_⟩
  rw [negated, decide_eq_true_iff]
  exact (and_iff_right (.inl term)).symm

theorem standsFor_ofQuoted (field : Option (List Char)) {content : List Char}
    (filled : Text.trim content ≠ []) :
    StandsFor (previous, .quoted field content)
      (ofQuoted field (Text.trim content) (previous = some .negation)) := by
  cases field with
  | none => exact standsFor_of_isTerm (.phrase filled) rfl rfl
  | some field => exact standsFor_of_isTerm (.quotedField filled) rfl rfl

theorem standsFor_ofRun {run : List Char}
    (keyword : run ∉ ["AND".toList, "OR".toList, "NOT".toList]) :
    StandsFor (previous, .bare run) (ofRun run (previous = some .negation)) := by
  unfold ofRun
  cases split : splitField? run with
  | none =>
    refine standsFor_of_isTerm (.word keyword ?_) rfl rfl
    rintro ⟨field, value, h⟩
    rw [splitField?_eq_some_iff.mpr h] at split
    cases split
  | some parts =>
    exact standsFor_of_isTerm (.field (splitField?_eq_some_iff.mp split)) rfl rfl

theorem forall₂_standsFor (previous : Option Lexeme) (ls : List Lexeme) :
    List.Forall₂ StandsFor ((withPrevious previous ls).filter fun place => !place.2.isSilent)
      (ofLexemes (previous = some .negation) ls) := by
  induction ls generalizing previous with
  | nil => exact .nil
  | cons l rest ih =>
    have places : withPrevious previous (l :: rest) =
        (previous, l) :: withPrevious (some l) rest := rfl
    have following := ih (some l)
    rw [places]
    cases l with
    | «open» => exact .cons ⟨.opening, by simp [plain, isOpening]⟩ following
    | close =>
      refine .cons ⟨.closing, ?_⟩ following
      simp [plain, isOpening, isTerm, TokenKind.isTerm]
    | quoted field content =>
      by_cases empty : Text.trim content = []
      · rw [ofLexemes, if_pos (by simpa using empty),
          List.filter_cons_of_neg (by simpa [Lexeme.isSilent] using empty)]
        exact following
      · rw [ofLexemes, if_neg (by simpa using empty),
          List.filter_cons_of_pos (by simpa [Lexeme.isSilent] using empty)]
        exact .cons (standsFor_ofQuoted field empty) following
    | bare run =>
      by_cases negation : run = "NOT".toList
      · subst negation
        exact following
      · have forgotten : decide (some (Lexeme.bare run) = some .negation) = false := by
          simpa [Lexeme.negation] using negation
        rw [forgotten] at following
        rw [ofLexemes_run, if_neg negation,
          List.filter_cons_of_pos (by simpa [Lexeme.isSilent] using negation)]
        by_cases operator : run ∈ ["AND".toList, "OR".toList]
        · rw [if_pos operator]
          refine .cons ⟨.operator operator, ?_⟩ following
          simp [plain, isOpening, isTerm, TokenKind.isTerm]
        · rw [if_neg operator]
          refine .cons (standsFor_ofRun ?_) following
          simp only [List.mem_cons, List.not_mem_nil, or_false, not_or] at operator ⊢
          exact ⟨operator.1, operator.2, negation⟩

end Token

/-- Every text splits into lexemes in one way. Its tokens are those of its lexemes one by one, but
for the silent ones, and only the lexeme directly before its own decides whether a token is
negated. -/
theorem negation_reaches_next_lexeme (text : String) :
    ∃ s : Scan, (∀ s', Lexeme.Splits 0 text.toList s' ↔ s' = s) ∧
      List.Forall₂ Token.StandsFor
        ((withPrevious none s.lexemes).filter fun place => !place.2.isSilent)
        (parse text).tokens := by
  refine ⟨Lexeme.scan 0 text.toList, fun s' => Lexeme.splits_iff, ?_⟩
  rw [tokens_parse]
  exact Token.forall₂_standsFor none _

example :
    (parse "NOT \"\" a NOT NOT (b NOT AND c NOT) d").tokens.map (fun t => (t.value, t.negated)) =
      [("a", false), ("(", true), ("b", false), ("AND", false), ("c", false), (")", false),
        ("d", false)] := by
  decide +kernel

end Dossier.Query
