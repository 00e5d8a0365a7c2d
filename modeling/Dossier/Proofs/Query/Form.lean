import Dossier.Proofs.Json.Shape
import Dossier.Proofs.Query.Errors
import Dossier.Proofs.Query.Token
import Dossier.Query.Build
import Dossier.Query.Form

/-!
The JSON form of a query loses nothing: whatever tokens, table and error a query has, it is read
back as it was written, if the position of an error fits 64 bits. The positions that parsing reports
lie in the text.
-/

namespace Dossier.Query

theorem Token.reads (t : Token) : Token.shape.Reads Token.json t := by
  obtain ⟨kind, value, field, negated, wild, quoted⟩ := t
  cases kind
  all_goals
    cases field
    all_goals rfl

theorem ParseError.shape_unterminatedQuote {n : Node} {position : Nat}
    (read : Shape.count n = .ok position) :
    ParseError.shape (.object
        [(.ok "kind", .text (.ok "unterminated_quote")), (.ok "position", n)] none) =
      .ok (.unterminatedQuote position) := by
  change (Shape.count n >>= fun p => pure (ParseError.unterminatedQuote p)) = _
  rw [read]
  rfl

theorem ParseError.reads {e : ParseError}
    (fits : ∀ position, e = .unterminatedQuote position → position < Number.limit) :
    ParseError.shape.Reads ParseError.json e := by
  cases e with
  | empty => rfl
  | unterminatedQuote position =>
    have count := Shape.reads_count (fits position rfl)
    rw [Shape.Reads] at count ⊢
    rw [ParseError.json, Node.ofJson, Node.ofMembers_eq_map, List.map_cons, List.map_singleton,
      Node.ofJson]
    exact ParseError.shape_unterminatedQuote count

theorem ParseError.ofJson_json_ne_null (e : ParseError) : Node.ofJson e.json ≠ .null := by
  cases e
  all_goals
    rw [ParseError.json, Node.ofJson]
    exact nofun

def Fits (q : Query) : Prop :=
  ∀ position, q.error = some (.unterminatedQuote position) → position < Number.limit

theorem reads {q : Query} (fits : q.Fits) : shape.Reads json q := by
  obtain ⟨tokens, conditions, wild, error⟩ := q
  have tokensRead : Token.shape.list (Node.ofJson (.array (tokens.map Token.json))) = .ok tokens :=
    Shape.Reads.list fun t _ => t.reads
  have stringsRead (ss : List String) : Shape.text.list.Reads Json.ofStrings ss :=
    Shape.Reads.list fun s _ => Shape.reads_text s
  have conditionsRead : Shape.text.list.dict (Node.ofJson (.ofDict .ofStrings conditions)) =
      .ok conditions := Shape.Reads.dict fun e _ => stringsRead e.2
  have flagRead : Shape.bool (Node.ofJson (.bool wild)) = .ok wild := Shape.reads_bool wild
  rw [Shape.Reads, json, Node.ofJson, Node.ofMembers_eq_map, List.map_append, List.map_cons,
    List.map_cons, List.map_singleton]
  change FieldShape.readMembers _ none [] _ ((.ok "tokens", _) :: (.ok "field_conditions", _) ::
    (.ok "has_wildcards", _) :: _) = _
  rw [FieldShape.readMembers_required rfl rfl tokensRead,
    FieldShape.readMembers_required rfl rfl conditionsRead,
    FieldShape.readMembers_required rfl rfl flagRead]
  cases error with
  | none => exact FieldShape.readMembers_nil rfl
  | some e =>
    have read : ParseError.shape.Reads ParseError.json e :=
      ParseError.reads fun position same => fits position (congrArg some same)
    have errorRead := read.nullable e.ofJson_json_ne_null
    exact (FieldShape.readMembers_placed rfl rfl errorRead none []).trans
      (FieldShape.readMembers_nil rfl)

theorem Token.isWhole_json (t : Token) : t.json.IsWhole := by
  rw [Token.json, Json.IsWhole, Json.membersWhole_iff]
  cases t.field
  all_goals simp [Json.IsWhole]

theorem ParseError.isWhole_json {e : ParseError}
    (fits : ∀ position, e = .unterminatedQuote position → position < Number.limit) :
    e.json.IsWhole := by
  cases e with
  | empty =>
    rw [ParseError.json, Json.IsWhole, Json.membersWhole_iff]
    simp [Json.IsWhole]
  | unterminatedQuote position =>
    have whole : (Number.whole position).IsWhole := by
      have within := fits position rfl
      constructor
      · omega
      · omega
    rw [ParseError.json, Json.IsWhole, Json.membersWhole_iff]
    simpa [Json.IsWhole, Json.ofNat] using whole

theorem isWhole_json {q : Query} (fits : q.Fits) : q.json.IsWhole := by
  have tokens : (Json.array (q.tokens.map Token.json)).IsWhole := by
    rw [Json.IsWhole, Json.itemsWhole_iff, List.forall_mem_map]
    exact fun t _ => t.isWhole_json
  have strings (ss : List String) : (Json.ofStrings ss).IsWhole := by
    rw [Json.ofStrings, Json.IsWhole, Json.itemsWhole_iff, List.forall_mem_map]
    exact fun s _ => trivial
  have conditions : (Json.ofDict .ofStrings q.conditions).IsWhole := by
    rw [Json.ofDict, Json.IsWhole, Json.membersWhole_iff, List.forall_mem_map]
    exact fun e _ => strings e.2
  have error : ∀ e, q.error = some e → e.json.IsWhole := fun e failed =>
    e.isWhole_json fun position same => fits position (failed.trans (congrArg some same))
  rw [json, Json.IsWhole, Json.membersWhole_iff]
  intro m mem
  rcases List.mem_append.mp mem with mem | mem
  · simp only [List.mem_cons, List.not_mem_nil, or_false] at mem
    rcases mem with rfl | rfl | rfl
    · exact tokens
    · exact conditions
    · exact trivial
  · obtain ⟨e, failed, rfl⟩ := Option.map_eq_some_iff.mp (Option.mem_toList.mp mem)
    exact error e failed

theorem fits_parse {text : String} (short : text.length ≤ Number.limit) : (parse text).Fits := by
  intro position failed
  have found := (error_parse_eq_unterminatedQuote_iff text position).mp failed
  obtain ⟨before, after, cut, -, place⟩ := Lexeme.isLastQuote_of_openQuote found
  have length := congrArg List.length cut
  rw [List.length_append, List.length_cons, String.length_toList] at length
  omega

/-- Whatever a query holds, it is read back from its JSON form, as a value and as a text of either
layout. What is read back from the form of a parsed text has the same expression and the same text
for near misses; a text is too long for that only if its positions do not fit 64 bits. -/
theorem form_round_trip :
    (∀ q : Query, q.Fits →
      shape (Node.ofJson q.json) = .ok q ∧
        ∀ pretty, shape.readText (q.json.render pretty 0).toList = .ok q) ∧
    ∀ text : String, text.length ≤ Number.limit → ∀ pretty,
      ∃ q, shape.readText ((parse text).json.render pretty 0).toList = .ok q ∧
        build q.tokens = build (parse text).tokens ∧
        q.positiveText = (parse text).positiveText := by
  have read (q : Query) (fits : q.Fits) (pretty : Bool) :
      shape.readText (q.json.render pretty 0).toList = .ok q := by
    rw [Shape.readText_render _ (isWhole_json fits)]
    exact reads fits
  constructor
  · intro q fits
    exact ⟨reads fits, read q fits⟩
  · intro text short pretty
    exact ⟨parse text, read _ (fits_parse short) pretty, rfl, rfl⟩

/-- Quotes, control characters and the last position of 64 bits come back. -/
theorem form_round_trip_last_position :
    let t : Token := ⟨.field, "a \"b\"\n\x01", some "name", true, false, true⟩
    let q : Query := ⟨[t, ⟨.group, ")", none, false, false, false⟩], .ofList [("name", [t.value])],
      true, some (.unterminatedQuote (Number.limit - 1))⟩
    let text := "NOT name:\"Ann Lee\" \"b"
    q.Fits ∧ shape (Node.ofJson q.json) = .ok q ∧
      shape.readText (q.json.render true 0).toList = .ok q ∧
      text.length ≤ Number.limit ∧ (parse text).error = some (.unterminatedQuote 19) ∧
      ∃ q, shape.readText ((parse text).json.render false 0).toList = .ok q ∧
        build q.tokens = some (.not (.term ⟨some "name", "Ann Lee", true⟩)) ∧
        q.positiveText = "" := by
  intro t q text
  have fits : q.Fits := by
    intro position failed
    cases failed
    decide
  have short : text.length ≤ Number.limit := by decide
  obtain ⟨value, rendered⟩ := form_round_trip.1 q fits
  obtain ⟨back, read, tree, positive⟩ := form_round_trip.2 text short false
  refine ⟨fits, value, rendered true, short, by decide +kernel, back, read, ?_, ?_⟩
  · rw [tree]
    decide +kernel
  · rw [positive]
    decide +kernel

end Dossier.Query
