import Dossier.Proofs.Query.Token

/-!
Plain text. A text without quotes and parentheses, none of whose words is an operator or names a
field, means the same as a query and as a list of words.
-/

namespace Dossier.Query

/-- No character and no word of the text has a meaning of its own in a query. -/
structure IsPlain (text : String) : Prop where
  unmarked : '"' ∉ text.toList ∧ '(' ∉ text.toList ∧ ')' ∉ text.toList
  unreserved : ∀ w ∈ Text.words text.toList, w ∉ ["AND".toList, "OR".toList, "NOT".toList]
  undivided : ∀ w ∈ Text.words text.toList, ¬∃ field value, SplitsAt field value w

theorem isPlain_iff {text : String} :
    IsPlain text ↔ ('"' ∉ text.toList ∧ '(' ∉ text.toList ∧ ')' ∉ text.toList) ∧
      ∀ w ∈ Text.words text.toList, IsWord w := by
  constructor
  · intro plain
    refine ⟨plain.unmarked, fun w mem => ?_⟩
    obtain ⟨filled, each⟩ := Text.mem_of_mem_words mem
    refine ⟨⟨filled, fun c hc => ?_⟩, plain.unreserved w mem, plain.undivided w mem⟩
    obtain ⟨unbroken, inText⟩ := each c hc
    obtain ⟨quote, opening, closing⟩ := plain.unmarked
    refine Lexeme.inRun_iff.mpr ⟨unbroken, ?_, ?_, ?_⟩
    · rintro rfl
      exact opening inText
    · rintro rfl
      exact closing inText
    · rintro rfl
      exact quote inText
  · rintro ⟨unmarked, word⟩
    exact ⟨unmarked, fun w mem => (word w mem).2.1, fun w mem => (word w mem).2.2⟩

instance (text : String) : Decidable (IsPlain text) := decidable_of_iff _ isPlain_iff.symm

theorem Lexeme.scan_of_words {cs : List Char} (bare : ∀ w ∈ Text.words cs, IsBare w) (p : Nat) :
    scan p cs = ⟨(Text.words cs).map .bare, none⟩ := by
  induction cs using Text.wordInduction generalizing p with
  | nil => simp [scan, Text.words]
  | blank c rest h ih =>
    rw [Text.words_cons_of_isBlank h] at bare ⊢
    rw [scan_blank p rest h, ih bare]
  | word w rest filled unbroken ends ih =>
    rw [Text.words_append filled unbroken ends] at bare ⊢
    obtain ⟨first, later⟩ := List.forall_mem_cons.mp bare
    have blank (c : Char) (head : rest.head? = some c) : inRun c = false := by
      simp [inRun, isBoundary, ends c head]
    have unquoted (head : rest.head? = some '"') : ∀ name, ¬Opens w (some name) :=
      absurd (ends '"' head) (by decide)
    rw [scan_bare p rest first blank unquoted, ih later]
    rfl

def Term.ofWord (w : List Char) : Term := ⟨none, String.ofList w, false⟩

theorem Token.ofLexemes_bare {ws : List (List Char)} (word : ∀ w ∈ ws, IsWord w) :
    ofLexemes false (ws.map .bare) = ws.map fun w => (Term.ofWord w).token false := by
  induction ws with
  | nil => rfl
  | cons w rest ih =>
    obtain ⟨first, later⟩ := List.forall_mem_cons.mp word
    have expressible : Expressible (Term.ofWord w) := .word (by rwa [String.toList_ofList])
    have written : (Term.ofWord w).lexeme = .bare w := by
      simp [Term.lexeme, Term.ofWord]
    rw [List.map_cons, ← written, Term.ofLexemes_lexeme expressible, ih later, List.map_cons]

/-- Terms without an operator between them are all asked for. -/
theorem Builder.foldl_feed_terms {tokens : List Token} (terms : ∀ t ∈ tokens, t.isTerm = true)
    (e : Expr) :
    tokens.foldl feed ⟨⟨some e, none⟩, []⟩ =
      ⟨⟨some ((tokens.map termOf).foldl .and e), none⟩, []⟩ := by
  induction tokens generalizing e with
  | nil => rfl
  | cons t rest ih =>
    obtain ⟨first, later⟩ := List.forall_mem_cons.mp terms
    rw [List.foldl_cons, feed_term first]
    exact ih later (.and e (termOf t))

theorem build_words (text : String) :
    build ((Text.words text.toList).map fun w => (Term.ofWord w).token false) =
      freeText text := by
  have termOf_word (w : List Char) :
      Builder.termOf ((Term.ofWord w).token false) = .term (Term.ofWord w) :=
    congrArg Expr.term ((Term.ofWord w).condition_token false)
  unfold freeText
  cases Text.words text.toList with
  | nil => rfl
  | cons w rest =>
    have terms : ∀ t ∈ rest.map fun w => (Term.ofWord w).token false, t.isTerm = true := by
      intro t mem
      obtain ⟨v, _, rfl⟩ := List.mem_map.mp mem
      exact (Term.ofWord v).isTerm_token false
    have first : Builder.start.feed ((Term.ofWord w).token false) =
        ⟨⟨some (.term (Term.ofWord w)), none⟩, []⟩ := by
      rw [Builder.feed_term ((Term.ofWord w).isTerm_token false), termOf_word]
      rfl
    have asked : (rest.map fun w => (Term.ofWord w).token false).map Builder.termOf =
        rest.map fun w => .term (Term.ofWord w) := by
      rw [List.map_map]
      exact List.map_congr_left fun v _ => termOf_word v
    rw [List.map_cons, build, List.foldl_cons, first, Builder.foldl_feed_terms terms, asked]
    rfl

variable {text : String}

theorem scan_of_plain (plain : IsPlain text) :
    Lexeme.scan 0 text.toList = ⟨(Text.words text.toList).map .bare, none⟩ :=
  Lexeme.scan_of_words (fun w mem => ((isPlain_iff.mp plain).2 w mem).1) 0

theorem build_of_plain (plain : IsPlain text) : build (parse text).tokens = freeText text := by
  rw [tokens_parse, scan_of_plain plain, Token.ofLexemes_bare (isPlain_iff.mp plain).2]
  exact build_words text

theorem error_of_plain (plain : IsPlain text) :
    (parse text).error = if Text.isBlankText text.toList then some .empty else none := by
  rw [error_parse, scan_of_plain plain]
  rfl

theorem built_of_plain (plain : IsPlain text) :
    (if (parse text).error = none then build (parse text).tokens else none) = freeText text := by
  rw [build_of_plain plain, error_of_plain plain]
  cases blank : Text.isBlankText text.toList with
  | false => rfl
  | true =>
    rw [freeText, Text.words_of_isBlankText blank]
    rfl

end Dossier.Query
