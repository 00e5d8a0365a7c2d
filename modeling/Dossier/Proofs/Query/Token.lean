import Dossier.Proofs.Query.Builder
import Dossier.Proofs.Query.Reading

/-!
The terms that a query text can express, and the tokens that express them. A text gives no other
tokens, and each of these terms is read back from its lexeme.
-/

namespace Dossier.Query

def SplitsAt (field value run : List Char) : Prop :=
  run = field ++ ':' :: value ∧ Lexeme.isFieldName field = true ∧ value ≠ [] ∧
    ¬ ['/', '/'] <+: value

def IsWord (run : List Char) : Prop :=
  Lexeme.IsBare run ∧ run ∉ ["AND".toList, "OR".toList, "NOT".toList] ∧
    ¬ ∃ field value, SplitsAt field value run

def IsFieldValue (value : List Char) : Prop := Lexeme.IsBare value ∧ ¬ ['/', '/'] <+: value

def IsPhrase (content : List Char) : Prop :=
  content ≠ [] ∧ Text.trim content = content ∧ '"' ∉ content

inductive Expressible : Term → Prop
  | word {v : String} : IsWord v.toList → Expressible ⟨none, v, false⟩
  | phrase {v : String} : IsPhrase v.toList → Expressible ⟨none, v, true⟩
  | field {f v : String} : Lexeme.isFieldName f.toList = true → IsFieldValue v.toList →
      Expressible ⟨some f, v, false⟩
  | quotedField {f v : String} : Lexeme.isFieldName f.toList = true → IsPhrase v.toList →
      Expressible ⟨some f, v, true⟩

namespace Token

theorem splitField?_eq_some_iff {run field value : List Char} :
    splitField? run = some (field, value) ↔ SplitsAt field value run := by
  constructor
  · intro h
    have whole := List.takeWhile_append_dropWhile (p := fun c => decide (c ≠ ':')) (l := run)
    have head := List.head?_dropWhile_not (fun c => decide (c ≠ ':')) run
    unfold splitField? at h
    split at h
    · cases h
    · cases h
    · cases h
    · rename_i c value' long address eq
      rw [eq] at head whole
      have colon : c = ':' := by simpa using head
      subst colon
      dsimp only at h
      split at h
      · rename_i name
        cases h
        refine ⟨whole.symm, name, fun empty => long empty, ?_⟩
        rintro ⟨rest, rfl⟩
        exact address _ rfl
      · cases h
  · rintro ⟨rfl, name, ne, address⟩
    have all : ∀ c ∈ field, decide (c ≠ ':') = true := fun c hc => by
      simpa using (Lexeme.inRun_of_isFieldName name c hc).2
    have taken : (field ++ ':' :: value).takeWhile (fun c => decide (c ≠ ':')) = field := by
      rw [List.takeWhile_append_of_pos all]
      simp
    have dropped : (field ++ ':' :: value).dropWhile (fun c => decide (c ≠ ':')) = ':' :: value := by
      rw [List.dropWhile_append_of_pos all]
      simp
    unfold splitField?
    rw [taken, dropped]
    split
    · rename_i eq
      cases eq
    · rename_i eq
      cases eq
      exact absurd rfl ne
    · rename_i eq
      cases eq
      exact absurd ⟨_, rfl⟩ address
    · rename_i eq
      cases eq
      exact if_pos name

instance (run : List Char) : Decidable (∃ field value, SplitsAt field value run) :=
  decidable_of_iff ((splitField? run).isSome = true) (by
    rw [Option.isSome_iff_exists, Prod.exists]
    simp only [splitField?_eq_some_iff])

end Token

instance (run : List Char) : Decidable (Lexeme.IsBare run) :=
  have : Decidable (∀ c ∈ run, Lexeme.inRun c = true) := List.decidableBAll _ _
  inferInstanceAs (Decidable (_ ∧ _))
instance (run : List Char) : Decidable (IsWord run) := inferInstanceAs (Decidable (_ ∧ _ ∧ _))
instance (value : List Char) : Decidable (IsFieldValue value) :=
  inferInstanceAs (Decidable (_ ∧ _))
instance (content : List Char) : Decidable (IsPhrase content) :=
  inferInstanceAs (Decidable (_ ∧ _ ∧ _))

namespace Term

def lexeme (q : Term) : Lexeme :=
  if q.exact then .quoted (q.field.map String.toList) q.value.toList
  else
    match q.field with
    | none => .bare q.value.toList
    | some f => .bare (f.toList ++ ':' :: q.value.toList)

def token (q : Term) (negated : Bool) : Token :=
  .term (if q.field.isSome then .field else if q.exact then .phrase else .word)
    (q.field.map String.toList) q.value.toList q.exact negated

theorem isTerm_token (q : Term) (negated : Bool) : (q.token negated).isTerm = true := by
  simp only [token, Token.term, Token.isTerm]
  split
  · rfl
  · split <;> rfl

theorem condition_token (q : Term) (negated : Bool) : (q.token negated).condition = q := by
  obtain ⟨field, value, exact⟩ := q
  cases field <;> simp [token, Token.term, Token.condition]

theorem isWritable_lexeme {q : Term} (h : Expressible q) : q.lexeme.IsWritable := by
  cases h with
  | word word => exact word.1
  | phrase phrase => exact phrase.2.2
  | field name value =>
    refine ⟨by simp, fun c hc => ?_⟩
    rcases List.mem_append.mp hc with hc | hc
    · exact (Lexeme.inRun_of_isFieldName name c hc).1
    · rcases List.mem_cons.mp hc with rfl | hc
      · decide
      · exact value.1.2 c hc
  | quotedField name phrase => exact ⟨name, phrase.2.2⟩

theorem ofLexemes_lexeme {q : Term} (h : Expressible q) (negated : Bool) (rest : List Lexeme) :
    Token.ofLexemes negated (q.lexeme :: rest) = q.token negated :: Token.ofLexemes false rest := by
  cases h with
  | @word v word =>
    obtain ⟨_, keyword, noField⟩ := word
    simp only [List.mem_cons, List.not_mem_nil, or_false, not_or] at keyword
    have whole : Token.splitField? v.toList = none := by
      rw [Option.eq_none_iff_forall_ne_some]
      exact fun pair eq => noField ⟨_, _, Token.splitField?_eq_some_iff.mp eq⟩
    have noKeyword : v.toList ≠ ['N', 'O', 'T'] ∧ v.toList ≠ ['A', 'N', 'D'] ∧
        v.toList ≠ ['O', 'R'] := ⟨keyword.2.2, keyword.1, keyword.2.1⟩
    simp [lexeme, token, Token.ofLexemes, Token.ofRun, whole, noKeyword]
  | @phrase v phrase =>
    simp [lexeme, token, Token.ofLexemes, Token.ofQuoted, phrase.1, phrase.2.1]
  | @field f v name value =>
    have splits : Token.splitField? (f.toList ++ ':' :: v.toList) = some (f.toList, v.toList) :=
      Token.splitField?_eq_some_iff.mpr ⟨rfl, name, value.1.1, value.2⟩
    have colon : ∀ run : List Char, ':' ∉ run → f.toList ++ ':' :: v.toList ≠ run := by
      rintro run no rfl
      exact no (by simp)
    simp [lexeme, token, Token.ofLexemes, Token.ofRun, splits, colon ['N', 'O', 'T'] (by decide),
      colon ['A', 'N', 'D'] (by decide), colon ['O', 'R'] (by decide)]
  | @quotedField f v name phrase =>
    simp [lexeme, token, Token.ofLexemes, Token.ofQuoted, phrase.1, phrase.2.1]

end Term

namespace Token

theorem expressible_ofRun {run : List Char} (bare : Lexeme.IsBare run)
    (keyword : run ∉ ["AND".toList, "OR".toList, "NOT".toList]) (negated : Bool) :
    Expressible (ofRun run negated).condition := by
  unfold ofRun
  cases split : splitField? run with
  | none =>
    change Expressible ⟨none, String.ofList run, false⟩
    refine .word ?_
    rw [String.toList_ofList]
    refine ⟨bare, keyword, ?_⟩
    rintro ⟨field, value, h⟩
    rw [splitField?_eq_some_iff.mpr h] at split
    cases split
  | some pair =>
    obtain ⟨field, value⟩ := pair
    obtain ⟨rfl, name, ne, address⟩ := splitField?_eq_some_iff.mp split
    change Expressible ⟨some (String.ofList field), String.ofList value, false⟩
    refine .field ?_ ?_
    · rwa [String.toList_ofList]
    · rw [String.toList_ofList]
      exact ⟨⟨ne, fun c hc => bare.2 c (by simp [hc])⟩, address⟩

theorem expressible_ofQuoted {field : Option (List Char)} {content : List Char}
    (writable : (Lexeme.quoted field content).IsWritable) (ne : Text.trim content ≠ [])
    (negated : Bool) : Expressible (ofQuoted field (Text.trim content) negated).condition := by
  have phrase (h : '"' ∉ content) : IsPhrase (String.ofList (Text.trim content)).toList := by
    rw [String.toList_ofList]
    exact ⟨ne, Text.trim_trim content, fun mem => h (Text.mem_of_mem_trim mem)⟩
  cases field with
  | none => exact .phrase (phrase writable)
  | some field =>
    exact .quotedField (by rw [String.toList_ofList]; exact writable.1) (phrase writable.2)

theorem ofRun_eq_token (run : List Char) (negated : Bool) :
    ofRun run negated = (ofRun run negated).condition.token negated := by
  unfold ofRun
  cases splitField? run with
  | none => simp [Term.token, term, condition]
  | some pair => simp [Term.token, term, condition]

theorem ofQuoted_eq_token (field : Option (List Char)) (value : List Char) (negated : Bool) :
    ofQuoted field value negated = (ofQuoted field value negated).condition.token negated := by
  cases field with
  | none => simp [ofQuoted, Term.token, term, condition]
  | some f => simp [ofQuoted, Term.token, term, condition]

inductive IsWritable : Token → Prop
  | term {q : Term} (negated : Bool) : Expressible q → IsWritable (q.token negated)
  | operator {v : String} : v ∈ ["AND", "OR"] → IsWritable (plain .operator v false)
  | opening (negated : Bool) : IsWritable (plain .group "(" negated)
  | closing : IsWritable (plain .group ")" false)

theorem IsWritable.expressible {t : Token} (h : t.IsWritable) (term : t.isTerm = true) :
    Expressible t.condition := by
  cases h with
  | @term q negated expressible => rwa [q.condition_token]
  | operator _ => cases term
  | opening _ => cases term
  | closing => cases term

theorem ofLexemes_run (negated : Bool) (run : List Char) (rest : List Lexeme) :
    ofLexemes negated (.bare run :: rest) =
      if run = "NOT".toList then ofLexemes true rest
      else if run ∈ ["AND".toList, "OR".toList] then
        plain .operator (String.ofList run) false :: ofLexemes false rest
      else ofRun run negated :: ofLexemes false rest := by
  simp [ofLexemes]

theorem isWritable_of_mem_ofLexemes {ls : List Lexeme} (h : ∀ l ∈ ls, l.IsWritable)
    (negated : Bool) : ∀ t ∈ ofLexemes negated ls, t.IsWritable := by
  induction ls generalizing negated with
  | nil => nofun
  | cons l rest ih =>
    obtain ⟨first, later⟩ := List.forall_mem_cons.mp h
    specialize ih later
    cases l with
    | «open» => exact List.forall_mem_cons.mpr ⟨.opening negated, ih false⟩
    | close => exact List.forall_mem_cons.mpr ⟨.closing, ih false⟩
    | quoted field content =>
      simp only [ofLexemes]
      split
      · exact ih false
      · rename_i ne
        refine List.forall_mem_cons.mpr ⟨?_, ih false⟩
        rw [ofQuoted_eq_token]
        exact .term negated (expressible_ofQuoted first (by simpa using ne) negated)
    | bare run =>
      rw [ofLexemes_run]
      by_cases negation : run = "NOT".toList
      · rw [if_pos negation]
        exact ih true
      · rw [if_neg negation]
        by_cases operator : run ∈ ["AND".toList, "OR".toList]
        · rw [if_pos operator]
          refine List.forall_mem_cons.mpr ⟨.operator ?_, ih false⟩
          simp only [List.mem_cons, List.not_mem_nil, or_false] at operator
          rcases operator with rfl | rfl
          · decide
          · decide
        · rw [if_neg operator, ofRun_eq_token]
          refine List.forall_mem_cons.mpr ⟨?_, ih false⟩
          refine .term negated (expressible_ofRun first ?_ negated)
          simp only [List.mem_cons, List.not_mem_nil, or_false, not_or] at operator ⊢
          exact ⟨operator.1, operator.2, negation⟩

end Token

/-- Every token that a text gives is one that a text can express. -/
theorem isWritable_of_mem_parse {text : String} : ∀ t ∈ (parse text).tokens, t.IsWritable := by
  rw [tokens_parse]
  exact Token.isWritable_of_mem_ofLexemes (fun _ => Lexeme.isWritable_of_mem_scan _) false

theorem expressible_of_mem_parse {text : String} {t : Token} (mem : t ∈ (parse text).tokens)
    (term : t.isTerm = true) : Expressible t.condition :=
  (isWritable_of_mem_parse t mem).expressible term

end Dossier.Query
