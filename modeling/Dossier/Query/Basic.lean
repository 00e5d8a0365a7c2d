import Dossier.Dict

/-!
Queries as lists of tokens. A token list is data and need not come from a text: any kind may go with
any value and any flags.
-/

namespace Dossier

namespace Query

inductive TokenKind where
  | word
  | phrase
  | field
  | operator
  | group
  deriving DecidableEq, Repr

/-- `quoted` asks for the whole value instead of a part of it. -/
structure Token where
  kind : TokenKind
  value : String
  field : Option String
  negated : Bool
  hasWildcards : Bool
  quoted : Bool
  deriving DecidableEq, Repr

def TokenKind.isTerm : TokenKind → Bool
  | .word | .phrase | .field => true
  | .operator | .group => false

def Token.isTerm (t : Token) : Bool := t.kind.isTerm

inductive ParseError where
  | empty
  | unterminatedQuote (position : Nat)
  deriving DecidableEq, Repr

def ParseError.message : ParseError → String
  | .empty => "empty query"
  | .unterminatedQuote position =>
    "unterminated quote starting at position " ++ toString position

def isWildcard (c : Char) : Bool := c = '*' || c = '?'

def containsWildcard (value : String) : Bool := value.toList.any isWildcard

end Query

/-- The tokens of a query text, in order, with two tables for inspection: the values asked for by
field, and whether any of them has a wildcard. -/
structure Query where
  tokens : List Query.Token
  conditions : Dict (List String)
  hasWildcards : Bool
  error : Option Query.ParseError
  deriving DecidableEq

namespace Query

/-- The values of the terms that are not negated. -/
def positiveText (q : Query) : String :=
  " ".intercalate ((q.tokens.filter fun t => t.isTerm && !t.negated).map (·.value))

end Query

end Dossier
