import Dossier.Json.Shape
import Dossier.Query.Basic

/-!
The JSON form of a query: what is written, and what is read back.
-/

namespace Dossier.Query

def TokenKind.name : TokenKind → String
  | .word => "word"
  | .phrase => "phrase"
  | .field => "field"
  | .operator => "operator"
  | .group => "group"

def TokenKind.ofName? (s : String) : Option TokenKind :=
  [.word, .phrase, .field, .operator, .group].find? (·.name = s)

/-- A kind is its name, or an object with null under its name. -/
def TokenKind.shape : Shape TokenKind := fun n => do
  let name ←
    match n with
    | .object [(k, .null)] none => k
    | n => Shape.text n
  match ofName? name with
  | some k => return k
  | none => throw .mismatched

def Token.json (t : Token) : Json :=
  .object <|
    [("type", .text t.kind.name), ("value", .text t.value)] ++
    (t.field.map fun f => ("field", Json.text f)).toList ++
    [("negated", .bool t.negated), ("has_wildcards", .bool t.hasWildcards),
      ("quoted", .bool t.quoted)]

def Token.blank : Token := ⟨.word, "", none, false, false, false⟩

def Token.shape : Shape Token :=
  Shape.record .blank [
    .required "type" TokenKind.shape fun k t => { t with kind := k },
    .required "value" Shape.text fun s t => { t with value := s },
    .placed "field" Shape.text fun f t => { t with field := f },
    .required "negated" Shape.bool fun b t => { t with negated := b },
    .required "has_wildcards" Shape.bool fun b t => { t with hasWildcards := b },
    .optional "quoted" Shape.bool fun b t => { t with quoted := b }]

def ParseError.json : ParseError → Json
  | .empty => .object [("kind", .text "empty")]
  | .unterminatedQuote position =>
    .object [("kind", .text "unterminated_quote"), ("position", .ofNat position)]

/-- The value of a member; members that are not asked for may hold anything. -/
def member? (name : String) (members : List (Key × Node)) : Option Node :=
  (members.find? fun (k, _) => k.toOption == some name).map (·.2)

/-- The kind stands under its name in an object, or first in an array. -/
def ParseError.shape : Shape ParseError := fun n => do
  let (kind, position) :=
    match n with
    | .object members _ => (member? "kind" members, member? "position" members)
    | .array [kind] _ => (some kind, none)
    | .array [kind, position] _ => (some kind, some position)
    | _ => (none, none)
  match ← Shape.text (kind.getD .null), n, position with
  | "empty", .object _ _, _ | "empty", _, none => return .empty
  | "unterminated_quote", _, some p => return .unterminatedQuote (← Shape.count p)
  | _, _, _ => throw .mismatched

def json (q : Query) : Json :=
  .object <|
    [("tokens", .array (q.tokens.map Token.json)),
      ("field_conditions", .ofDict .ofStrings q.conditions),
      ("has_wildcards", .bool q.hasWildcards)] ++
    (q.error.map fun e => ("error", e.json)).toList

def shape : Shape Query :=
  Shape.record ⟨[], .empty, false, none⟩ [
    .required "tokens" (Shape.list Token.shape) fun ts q => { q with tokens := ts },
    .required "field_conditions" (Shape.dict (Shape.list Shape.text)) fun d q =>
      { q with conditions := d },
    .required "has_wildcards" Shape.bool fun b q => { q with hasWildcards := b },
    .placed "error" ParseError.shape fun e q => { q with error := e }]

end Dossier.Query
