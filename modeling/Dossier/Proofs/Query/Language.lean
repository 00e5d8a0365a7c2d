import Dossier.Proofs.Query.Print

/-!
The token language. A list of tokens that texts can express is read back from the text that it is
rendered as, and no text gives any other tokens.
-/

namespace Dossier.Query

def Term.kind (q : Term) : TokenKind :=
  if q.field.isSome then .field else if q.exact then .phrase else .word

inductive Spelled : TokenKind → Term → Prop
  | term {q : Term} : Expressible q → Spelled q.kind q
  | operator {v : String} : v ∈ ["AND", "OR"] → Spelled .operator ⟨none, v, false⟩
  | group {v : String} : v ∈ ["(", ")"] → Spelled .group ⟨none, v, false⟩

namespace Token

/-- A token of the language: it says what its kind may say, only terms and opening parentheses are
negated, and its mark for wildcards is set just for a term that has one. -/
structure IsWellFormed (t : Token) : Prop where
  spelled : Spelled t.kind t.condition
  negated : t.negated = true → t.isTerm = true ∨ t.isOpening = true
  wildcards : t.hasWildcards = true ↔
    t.isTerm = true ∧ ('*' ∈ t.value.toList ∨ '?' ∈ t.value.toList)

def print (t : Token) : String :=
  if t.negated then "NOT " ++ t.condition.print else t.condition.print

theorem any_isWildcard {value : List Char} :
    value.any isWildcard = true ↔ '*' ∈ value ∨ '?' ∈ value := by
  simp [isWildcard, List.any_eq_true, or_and_right, exists_or, and_comm]

theorem isTerm_kind (q : Term) : q.kind.isTerm = true := q.isTerm_token false

theorem isWellFormed_plain {kind : TokenKind} {v : String} {negated : Bool}
    (noTerm : kind.isTerm = false) (spelled : Spelled kind ⟨none, v, false⟩)
    (mayNegate : negated = true → (plain kind v negated).isOpening = true) :
    (plain kind v negated).IsWellFormed := by
  refine ⟨spelled, fun h => .inr (mayNegate h), ?_⟩
  simp [plain, isTerm, noTerm]

theorem isWellFormed_of_isWritable {t : Token} (h : t.IsWritable) : t.IsWellFormed := by
  cases h with
  | @term q negated expressible =>
    refine ⟨?_, fun _ => .inl (q.isTerm_token negated), ?_⟩
    · rw [q.condition_token]
      exact .term expressible
    · rw [q.isTerm_token, ← any_isWildcard]
      simp [Term.token, term]
  | operator operator => exact isWellFormed_plain rfl (.operator operator) (by simp)
  | opening negated => exact isWellFormed_plain rfl (.group (by decide)) fun _ => rfl
  | closing => exact isWellFormed_plain rfl (.group (by decide)) (by simp)

theorem isWritable_of_isWellFormed {t : Token} (h : t.IsWellFormed) : t.IsWritable := by
  obtain ⟨kind, value, field, negated, wild, quoted⟩ := t
  obtain ⟨spelled, mayNegate, wildcards⟩ := h
  dsimp only [condition, isTerm, isOpening] at spelled mayNegate wildcards
  cases spelled with
  | term expressible =>
    have marked : wild = value.toList.any isWildcard := by
      rw [Bool.eq_iff_iff, any_isWildcard, wildcards]
      exact and_iff_right (isTerm_kind _)
    have same : Term.token ⟨field, value, quoted⟩ negated =
        ⟨Term.kind ⟨field, value, quoted⟩, value, field, negated, wild, quoted⟩ := by
      simp [Term.token, Term.kind, term, marked]
    exact same ▸ .term negated expressible
  | operator operator =>
    have unmarked : wild = false := by simpa [TokenKind.isTerm] using wildcards
    have positive : negated = false := by simpa [TokenKind.isTerm] using mayNegate
    rw [unmarked, positive]
    exact .operator operator
  | group parenthesis =>
    have unmarked : wild = false := by simpa [TokenKind.isTerm] using wildcards
    rw [unmarked]
    simp only [List.mem_cons, List.not_mem_nil, or_false] at parenthesis
    rcases parenthesis with rfl | rfl
    · exact .opening negated
    · have positive : negated = false := by simpa [TokenKind.isTerm] using mayNegate
      rw [positive]
      exact .closing

theorem isWellFormed_iff {t : Token} : t.IsWellFormed ↔ t.IsWritable :=
  ⟨isWritable_of_isWellFormed, isWellFormed_of_isWritable⟩

def lexeme (t : Token) : Lexeme :=
  match t.kind with
  | .operator => .bare t.value.toList
  | .group => if t.value = "(" then .open else .close
  | .word | .phrase | .field => t.condition.lexeme

def lexemes (t : Token) : List Lexeme :=
  if t.negated then [.bare "NOT".toList, t.lexeme] else [t.lexeme]

theorem lexemes_ne_nil (t : Token) : t.lexemes ≠ [] := by
  unfold lexemes
  split <;> exact List.cons_ne_nil _ _

theorem lexeme_of_isTerm {t : Token} (h : t.isTerm = true) : t.lexeme = t.condition.lexeme := by
  unfold lexeme
  cases kind : t.kind with
  | operator => rw [isTerm_of_operator kind] at h; cases h
  | group => simp [isTerm, kind, TokenKind.isTerm] at h
  | word => rfl
  | phrase => rfl
  | field => rfl

theorem lexeme_token (q : Term) (negated : Bool) : (q.token negated).lexeme = q.lexeme := by
  rw [lexeme_of_isTerm (q.isTerm_token negated), q.condition_token]

section Lexemes

variable {t : Token}

theorem written_lexeme (h : t.IsWritable) : t.lexeme.written = t.condition.print.toList := by
  cases h with
  | term negated _ => rw [lexeme_token, Term.condition_token, Term.toList_print]
  | operator _ => rfl
  | opening _ => simp [lexeme, plain, Lexeme.written, condition, Term.print]
  | closing => rfl

theorem toList_print (h : t.IsWritable) : t.print.toList = spaced t.lexemes := by
  unfold print lexemes
  split
  · rw [spaced_cons _ (List.cons_ne_nil _ _), spaced_singleton, written_lexeme h]
    simp [Lexeme.written]
  · rw [spaced_singleton, written_lexeme h]

theorem isWritable_lexeme (h : t.IsWritable) : t.lexeme.IsWritable := by
  cases h with
  | term negated expressible =>
    rw [lexeme_token]
    exact Term.isWritable_lexeme expressible
  | @operator v operator =>
    simp only [List.mem_cons, List.not_mem_nil, or_false] at operator
    rcases operator with rfl | rfl
    · exact (by decide : Lexeme.IsBare "AND".toList)
    · exact (by decide : Lexeme.IsBare "OR".toList)
  | opening _ => trivial
  | closing => trivial

theorem isWritable_of_mem_lexemes (h : t.IsWritable) : ∀ l ∈ t.lexemes, l.IsWritable := by
  have bareNot : Lexeme.IsBare "NOT".toList := by decide
  unfold lexemes
  split
  · simpa using ⟨bareNot, isWritable_lexeme h⟩
  · simpa using isWritable_lexeme h

/-- The lexemes of a token give it back, whatever follows. -/
theorem ofLexemes_lexemes (h : t.IsWritable) (rest : List Lexeme) :
    ofLexemes false (t.lexemes ++ rest) = t :: ofLexemes false rest := by
  have skip (negated : Bool) (l : Lexeme) : ofLexemes false
      ((if negated then [.bare "NOT".toList, l] else [l]) ++ rest) =
        ofLexemes negated (l :: rest) := by
    cases negated with
    | false => rfl
    | true => exact if_pos (by decide)
  rw [lexemes, skip]
  cases h with
  | term negated expressible =>
    rw [lexeme_token]
    exact Term.ofLexemes_lexeme expressible negated rest
  | @operator v operator =>
    simp only [List.mem_cons, List.not_mem_nil, or_false] at operator
    rcases operator with rfl | rfl
    · rfl
    · rfl
  | opening negated => rfl
  | closing => rfl

end Lexemes

end Token

def render (tokens : List Token) : String := " ".intercalate (tokens.map Token.print)

section Render

variable {tokens : List Token}

theorem flatMap_lexemes_ne_nil (ne : tokens ≠ []) : tokens.flatMap Token.lexemes ≠ [] := by
  cases tokens with
  | nil => exact absurd rfl ne
  | cons t rest => exact List.append_ne_nil_of_left_ne_nil t.lexemes_ne_nil _

theorem toList_render (writable : ∀ t ∈ tokens, t.IsWritable) :
    (render tokens).toList = spaced (tokens.flatMap Token.lexemes) := by
  have filled : ∀ ls ∈ tokens.map Token.lexemes, ls ≠ [] :=
    List.forall_mem_map.mpr fun t _ => t.lexemes_ne_nil
  have texts : tokens.map (String.toList ∘ Token.print) = tokens.map (spaced ∘ Token.lexemes) :=
    List.map_congr_left fun t mem => Token.toList_print (writable t mem)
  rw [render, String.toList_intercalate, List.map_map, texts, List.flatMap, spaced_flatten filled,
    List.map_map]
  rfl

theorem ofLexemes_flatMap (writable : ∀ t ∈ tokens, t.IsWritable) :
    Token.ofLexemes false (tokens.flatMap Token.lexemes) = tokens := by
  induction tokens with
  | nil => rfl
  | cons t rest ih =>
    obtain ⟨first, later⟩ := List.forall_mem_cons.mp writable
    rw [List.flatMap_cons, Token.ofLexemes_lexemes first, ih later]

theorem parse_render (writable : ∀ t ∈ tokens, t.IsWritable) (ne : tokens ≠ []) :
    (parse (render tokens)).error = none ∧ (parse (render tokens)).tokens = tokens := by
  have lexemes : ∀ l ∈ tokens.flatMap Token.lexemes, l.IsWritable := by
    intro l mem
    obtain ⟨t, inside, mem⟩ := List.mem_flatMap.mp mem
    exact Token.isWritable_of_mem_lexemes (writable t inside) l mem
  have text := toList_render writable
  have notBlank := isBlankText_spaced lexemes (flatMap_lexemes_ne_nil ne)
  rw [← text] at notBlank
  rw [error_parse, tokens_parse, notBlank, text, scan_spaced lexemes]
  exact ⟨rfl, ofLexemes_flatMap writable⟩

end Render

/-- Tokens of the language, in any order and balance, are read back from their text, and every
text, also one with an error, gives tokens of the language. -/
theorem token_language :
    (∀ tokens : List Token, tokens ≠ [] → (∀ t ∈ tokens, t.IsWellFormed) →
      (parse (render tokens)).error = none ∧ (parse (render tokens)).tokens = tokens) ∧
    ∀ text, ∀ t ∈ (parse text).tokens, t.IsWellFormed := by
  constructor
  · intro tokens ne wellFormed
    have writable : ∀ t ∈ tokens, t.IsWritable := fun t mem =>
      Token.isWellFormed_iff.mp (wellFormed t mem)
    exact parse_render writable ne
  · intro text t mem
    exact Token.isWellFormed_iff.mpr (isWritable_of_mem_parse t mem)

/-- Every kind of token, out of balance, and a text with an error. -/
theorem token_language_of_each_kind :
    let closing : Token := ⟨.group, ")", none, false, false, false⟩
    let opening : Token := ⟨.group, "(", none, true, false, false⟩
    let operator : Token := ⟨.operator, "OR", none, false, false, false⟩
    let word : Token := ⟨.word, "a:", none, false, false, false⟩
    let phrase : Token := ⟨.phrase, "OR b", none, true, false, true⟩
    let field : Token := ⟨.field, "AND*", some "f", false, true, false⟩
    let quotedField : Token := ⟨.field, "( c ?", some "f", true, true, true⟩
    let tokens := [closing, opening, operator, word, phrase, field, quotedField]
    tokens ≠ [] ∧ (∀ t ∈ tokens, t.IsWellFormed) ∧
      render tokens = ") NOT ( OR a: NOT \"OR b\" f:AND* NOT f:\"( c ?\"" ∧
      (parse (render tokens)).error = none ∧ (parse (render tokens)).tokens = tokens ∧
      (parse "NOT \"\" a \"b").error = some (.unterminatedQuote 9) ∧
      ∀ t ∈ (parse "NOT \"\" a \"b").tokens, t.IsWellFormed := by
  intro closing opening operator word phrase field quotedField tokens
  have wellFormed : ∀ t ∈ tokens, t.IsWellFormed := by
    simp only [tokens, List.forall_mem_cons, List.not_mem_nil, false_implies, implies_true,
      and_true]
    refine ⟨?_, ?_, ?_, ?_, ?_, ?_, ?_⟩
    · exact ⟨.group (by decide), by decide, by decide⟩
    · exact ⟨.group (by decide), by decide, by decide⟩
    · exact ⟨.operator (by decide), by decide, by decide⟩
    · exact ⟨.term (.word (by decide)), by decide, by decide⟩
    · exact ⟨.term (.phrase (by decide)), by decide, by decide⟩
    · exact ⟨.term (.field (by decide) (by decide)), by decide, by decide⟩
    · exact ⟨.term (.quotedField (by decide) (by decide)), by decide, by decide⟩
  have read := token_language.1 tokens (List.cons_ne_nil _ _) wellFormed
  exact ⟨List.cons_ne_nil _ _, wellFormed, by decide, read.1, read.2, by decide +kernel,
    token_language.2 _⟩

end Dossier.Query
