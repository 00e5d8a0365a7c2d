import Dossier.Query.Basic
import Dossier.Query.Lexeme

/-!
Reads a query text. A bare NOT negates what comes next if that is a term or an opening parenthesis,
and is forgotten otherwise; a quoted run of blanks gives no token. The tables of the query are
filled in term by term, and reading stops at a quote that is never closed.
-/

namespace Dossier.Query

namespace Token

def term (kind : TokenKind) (field : Option (List Char)) (value : List Char)
    (quoted negated : Bool) : Token where
  kind := kind
  value := String.ofList value
  field := field.map String.ofList
  negated := negated
  hasWildcards := value.any isWildcard
  quoted := quoted

def plain (kind : TokenKind) (value : String) (negated : Bool) : Token :=
  ⟨kind, value, none, negated, false, false⟩

/-- The field and the value of a run, unless the value is empty or begins with two slashes, or the
field is not a name. -/
def splitField? (run : List Char) : Option (List Char × List Char) :=
  let field := run.takeWhile (· ≠ ':')
  match run.dropWhile (· ≠ ':') with
  | [] | [_] | _ :: '/' :: '/' :: _ => none
  | _ :: value => if Lexeme.isFieldName field then some (field, value) else none

def ofRun (run : List Char) (negated : Bool) : Token :=
  match splitField? run with
  | some (field, value) => term .field (some field) value false negated
  | none => term .word none run false negated

def ofQuoted (field : Option (List Char)) (value : List Char) (negated : Bool) : Token :=
  term (if field.isSome then .field else .phrase) field value true negated

end Token

/-- A query that is being read, and whether a NOT waits for what comes next. -/
structure Reader where
  query : Query
  negateNext : Bool

namespace Reader

def start : Reader := ⟨⟨[], .empty, false, none⟩, false⟩

def push (r : Reader) (t : Token) : Reader :=
  ⟨{ r.query with tokens := r.query.tokens ++ [t] }, false⟩

/-- Takes in a term, and notes it in both tables. -/
def pushTerm (r : Reader) (t : Token) : Reader where
  query :=
    { r.query with
      tokens := r.query.tokens ++ [if r.negateNext then { t with negated := true } else t]
      conditions :=
        match t.field with
        | some field => r.query.conditions.update field [] (· ++ [t.value])
        | none => r.query.conditions
      hasWildcards := t.hasWildcards || r.query.hasWildcards }
  negateNext := false

def quoted (r : Reader) (field : Option (List Char)) (content : List Char) : Reader :=
  let value := Text.trim content
  if value.isEmpty then { r with negateNext := false }
  else r.pushTerm (Token.ofQuoted field value false)

def bare (r : Reader) (run : List Char) : Reader :=
  if run = ['N', 'O', 'T'] then { r with negateNext := true }
  else if run = ['A', 'N', 'D'] || run = ['O', 'R'] then
    r.push (Token.plain .operator (String.ofList run) false)
  else r.pushTerm (Token.ofRun run false)

def stop (r : Reader) (position : Nat) : Query :=
  { r.query with error := some (.unterminatedQuote position) }

/-- Reads a text whose first character has the given position. -/
def read (r : Reader) (position : Nat) : List Char → Query
  | [] => r.query
  | c :: cs =>
    if Text.isBlank c then r.read (position + 1) cs
    else if c = '(' then
      (r.push (Token.plain .group "(" r.negateNext)).read (position + 1) cs
    else if c = ')' then
      (r.push (Token.plain .group ")" false)).read (position + 1) cs
    else if c = '"' then
      match h : Lexeme.splitQuote? cs with
      | some (content, rest) =>
        have := Lexeme.length_splitQuote? h
        (r.quoted none content).read (position + content.length + 2) rest
      | none => r.stop position
    else
      let run := c :: cs.takeWhile Lexeme.inRun
      have : (cs.dropWhile Lexeme.inRun).length ≤ cs.length :=
        (List.dropWhile_suffix _).length_le
      match h : cs.dropWhile Lexeme.inRun, Lexeme.fieldBefore? run with
      | '"' :: after, some field =>
        have := congrArg List.length h
        match k : Lexeme.splitQuote? after with
        | some (content, rest) =>
          have := Lexeme.length_splitQuote? k
          (r.quoted (some field) content).read (position + run.length + content.length + 2) rest
        | none => r.stop (position + run.length)
      | rest, _ => (r.bare run).read (position + run.length) rest
termination_by cs => cs.length
decreasing_by all_goals simp_all <;> omega

end Reader

/-- Reads a query text. Reading never fails: a problem stands beside the tokens before it. -/
def parse (text : String) : Query :=
  let cs := text.toList
  if Text.isBlankText cs then { Reader.start.query with error := some .empty }
  else Reader.start.read 0 cs

end Dossier.Query
