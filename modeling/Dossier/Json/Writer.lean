import Dossier.Decimal.Shortest
import Dossier.Json.Basic

/-!
The text of a JSON value, on one line or with a level of two spaces for each array and object. A
double always has a point; one that is not finite is written as null.
-/

namespace Dossier

def Number.render : Number → String
  | .whole n => toString n
  | .double x =>
    if x.isNaN || x.isInf then "null"
    else
      let s := Decimal.floatText x
      if s.toList.contains '.' then s else s ++ ".0"

namespace Json

def hexDigit (n : Nat) : Char := (Nat.digitChar n)

def escape (c : Char) : List Char :=
  match c with
  | '"' => ['\\', '"']
  | '\\' => ['\\', '\\']
  | '\n' => ['\\', 'n']
  | '\r' => ['\\', 'r']
  | '\t' => ['\\', 't']
  | '\x08' => ['\\', 'b']
  | '\x0c' => ['\\', 'f']
  | c =>
    if c.toNat < 0x20 then ['\\', 'u', '0', '0', hexDigit (c.toNat / 16), hexDigit (c.toNat % 16)]
    else [c]

def quoted (s : String) : String := String.ofList ('"' :: s.toList.flatMap escape ++ ['"'])

/-- What stands before the parts of an array or object at the given depth, if they are not all on
one line. -/
def lineBreak (pretty : Bool) (depth : Nat) : String :=
  if pretty then String.ofList ('\n' :: List.replicate (2 * depth) ' ') else ""

mutual

def render (pretty : Bool) (depth : Nat) : Json → String
  | .null => "null"
  | .bool b => if b then "true" else "false"
  | .number n => n.render
  | .text s => quoted s
  | .array [] => "[]"
  | .array items =>
    "[" ++ renderItems pretty (depth + 1) items ++ lineBreak pretty depth ++ "]"
  | .object [] => "\x7b\x7d"
  | .object members =>
    "\x7b" ++ renderMembers pretty (depth + 1) members ++ lineBreak pretty depth ++ "\x7d"

def renderItems (pretty : Bool) (depth : Nat) : List Json → String
  | [] => ""
  | [j] => lineBreak pretty depth ++ render pretty depth j
  | j :: rest =>
    lineBreak pretty depth ++ render pretty depth j ++ "," ++ renderItems pretty depth rest

def renderMembers (pretty : Bool) (depth : Nat) : List (String × Json) → String
  | [] => ""
  | [(k, j)] => renderMember pretty depth k j
  | (k, j) :: rest => renderMember pretty depth k j ++ "," ++ renderMembers pretty depth rest

def renderMember (pretty : Bool) (depth : Nat) (k : String) (j : Json) : String :=
  lineBreak pretty depth ++ quoted k ++ (if pretty then ": " else ":") ++ render pretty depth j

end

def compress (j : Json) : String := render false 0 j

def pretty (j : Json) : String := render true 0 j

end Json

end Dossier
