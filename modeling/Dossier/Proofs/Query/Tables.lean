import Dossier.Proofs.Dict
import Dossier.Proofs.Query.Reading

/-!
The tables of a query. They are kept in step with its tokens as these are read, one by one, so that
they agree with the tokens wherever reading stops.
-/

namespace Dossier

theorem Dict.find?_update {α : Type} (d : Dict α) (k other : String) (initial : α) (f : α → α) :
    (d.update k initial f).find? other =
      if k = other then some (f ((d.find? k).getD initial)) else d.find? other :=
  d.find?_insert k other _

namespace Query

def valuesOf (field : String) (tokens : List Token) : List String :=
  (tokens.filter fun t => t.kind = .field ∧ t.field = some field).map (·.value)

/-- The tables say what the tokens say. -/
structure InStep (q : Query) : Prop where
  keys : ∀ field, field ∈ q.conditions.keys ↔
    ∃ t ∈ q.tokens, t.kind = .field ∧ t.field = some field
  values : ∀ field, (q.conditions.find? field).getD [] = valuesOf field q.tokens
  wildcards : q.hasWildcards = true ↔
    ∃ t ∈ q.tokens, t.isTerm = true ∧ ('*' ∈ t.value.toList ∨ '?' ∈ t.value.toList)

theorem valuesOf_concat (field : String) (tokens : List Token) (t : Token) :
    valuesOf field (tokens ++ [t]) =
      valuesOf field tokens ++
        if t.kind = .field ∧ t.field = some field then [t.value] else [] := by
  by_cases asked : t.kind = .field ∧ t.field = some field
  · simp [valuesOf, List.filter_append, asked]
  · simp [valuesOf, List.filter_append, asked]

/-- A term whose own marks are right: it has a field just if it is a field token, and says whether
its value has a wildcard. -/
structure Token.IsMarked (t : Token) : Prop where
  isTerm : t.isTerm = true
  field : t.field.isSome = true → t.kind = .field
  wildcards : t.hasWildcards = true ↔ '*' ∈ t.value.toList ∨ '?' ∈ t.value.toList

theorem Token.isMarked_term {kind : TokenKind} {field : Option (List Char)} (value : List Char)
    (quoted negated : Bool) (term : kind.isTerm = true)
    (named : field.isSome = true → kind = .field) :
    (Token.term kind field value quoted negated).IsMarked := by
  refine ⟨term, fun some => named (by simpa [Token.term] using some), ?_⟩
  simp only [Token.term, String.toList_ofList, List.any_eq_true, isWildcard, Bool.or_eq_true,
    decide_eq_true_eq]
  constructor
  · rintro ⟨c, mem, rfl | rfl⟩
    · exact .inl mem
    · exact .inr mem
  · rintro (mem | mem)
    · exact ⟨_, mem, .inl rfl⟩
    · exact ⟨_, mem, .inr rfl⟩

theorem Token.isMarked_ofQuoted (field : Option (List Char)) (value : List Char) (negated : Bool) :
    (Token.ofQuoted field value negated).IsMarked := by
  cases field with
  | none => exact Token.isMarked_term value true negated rfl nofun
  | some name => exact Token.isMarked_term value true negated rfl fun _ => rfl

theorem Token.isMarked_ofRun (run : List Char) (negated : Bool) :
    (Token.ofRun run negated).IsMarked := by
  unfold Token.ofRun
  split
  · exact Token.isMarked_term _ false negated rfl fun _ => rfl
  · exact Token.isMarked_term _ false negated rfl nofun

namespace Reader

variable {r : Reader}

theorem inStep_start : start.query.InStep := by
  refine ⟨fun field => ?_, fun field => rfl, ?_⟩
  · simp [start, Dict.keys, Dict.empty]
  · simp [start]

theorem inStep_push {t : Token} (h : r.query.InStep) (other : t.isTerm = false) :
    (r.push t).query.InStep := by
  have notField : t.kind ≠ .field := by
    intro field
    rw [Token.isTerm, field] at other
    cases other
  refine ⟨fun field => ?_, fun field => ?_, ?_⟩
  · simp [push, h.keys, notField]
  · simp [push, h.values, valuesOf_concat, notField]
  · simp [push, h.wildcards, other]

section Term

variable (r) (t : Token) (field : String)

theorem tokens_pushTerm :
    ∃ negated, (r.pushTerm t).query.tokens = r.query.tokens ++ [{ t with negated }] := by
  cases pending : r.negateNext with
  | false => exact ⟨t.negated, by simp [pushTerm, pending]⟩
  | true => exact ⟨true, by simp [pushTerm, pending]⟩

theorem mem_keys_pushTerm :
    field ∈ (r.pushTerm t).query.conditions.keys ↔
      field ∈ r.query.conditions.keys ∨ t.field = some field := by
  cases named : t.field with
  | none => simp [pushTerm, named]
  | some name =>
    simp only [pushTerm, named, Dict.update, Dict.mem_keys_insert, Option.some.injEq]
    exact or_comm

theorem getD_find?_pushTerm :
    ((r.pushTerm t).query.conditions.find? field).getD [] =
      (r.query.conditions.find? field).getD [] ++ if t.field = some field then [t.value] else [] := by
  cases named : t.field with
  | none => simp [pushTerm, named]
  | some name =>
    by_cases same : name = field
    · subst same
      simp [pushTerm, named, Dict.find?_update]
    · simp [pushTerm, named, Dict.find?_update, same]

end Term

theorem inStep_pushTerm {t : Token} (h : r.query.InStep) (marked : t.IsMarked) :
    (r.pushTerm t).query.InStep := by
  have asked (field : String) : (t.kind = .field ∧ t.field = some field) ↔ t.field = some field :=
    and_iff_right_of_imp fun named => marked.field (by rw [named]; rfl)
  obtain ⟨negated, tokens⟩ := tokens_pushTerm r t
  have noted : (r.pushTerm t).query.hasWildcards = (t.hasWildcards || r.query.hasWildcards) := rfl
  refine ⟨fun field => ?_, fun field => ?_, ?_⟩
  · rw [mem_keys_pushTerm, h.keys, tokens]
    simp [asked]
  · rw [getD_find?_pushTerm, h.values, tokens, valuesOf_concat]
    simp only [asked]
  · rw [noted, Bool.or_eq_true, h.wildcards, marked.wildcards, tokens]
    have term : Token.isTerm { t with negated } = true := marked.isTerm
    simp [term, or_and_right, exists_or, or_comm]

theorem inStep_quoted (h : r.query.InStep) (field : Option (List Char)) (content : List Char) :
    (r.quoted field content).query.InStep := by
  unfold quoted
  dsimp only
  split
  · exact h
  · exact inStep_pushTerm h (Token.isMarked_ofQuoted _ _ _)

theorem inStep_bare (h : r.query.InStep) (run : List Char) : (r.bare run).query.InStep := by
  unfold bare
  split
  · exact h
  · split
    · exact inStep_push h rfl
    · exact inStep_pushTerm h (Token.isMarked_ofRun _ _)

/-- Wherever reading starts and stops, what it takes in keeps the tables in step. -/
theorem inStep_read (h : r.query.InStep) (position : Nat) (cs : List Char) :
    (r.read position cs).InStep := by
  fun_induction read r position cs with
  | case1 => exact h
  | case2 r p c cs blank ih => exact ih h
  | case3 r p cs _ ih => exact ih (inStep_push h rfl)
  | case4 r p cs _ _ ih => exact ih (inStep_push h rfl)
  | case5 r p cs content rest k _ _ _ _ ih => exact ih (inStep_quoted h _ _)
  | case6 r p cs k => exact ⟨h.keys, h.values, h.wildcards⟩
  | case7 r p c cs blank opening closing quote run _ after field eq named _ content rest k _ ih =>
    exact ih (inStep_quoted h _ _)
  | case8 r p c cs blank opening closing quote run _ after field eq named _ k =>
    exact ⟨h.keys, h.values, h.wildcards⟩
  | case9 r p c cs blank opening closing quote run _ other ih => exact ih (inStep_bare h _)

end Reader

/-- Whatever a text says, and whether or not it has an error, its tables agree with its tokens. -/
theorem inStep_parse (text : String) : (parse text).InStep := by
  unfold parse
  dsimp only
  split
  · exact ⟨Reader.inStep_start.keys, Reader.inStep_start.values, Reader.inStep_start.wildcards⟩
  · exact Reader.inStep_read Reader.inStep_start _ _

-- Both values are in the table, though the last quote is never closed.
example : ((parse "f:a* NOT f:\"b c\" OR \"d").conditions.find? "f") = some ["a*", "b c"] := by
  decide +kernel

end Query

end Dossier
