import Dossier.Error
import Dossier.Text.Blank
import Dossier.Text.Normal

/-!
Search requests, and the bounds that they keep to when they come from outside.
-/

namespace Dossier

structure Request where
  text : String
  collection : Option String
  kinds : List String
  fields : List String
  limit : Nat
  offset : Nat
  fuzzy : Bool
  highlight : Bool
  advanced : Bool
  deriving DecidableEq, Repr

namespace Request

def ofText (text : String) : Request where
  text := text
  collection := none
  kinds := []
  fields := []
  limit := 20
  offset := 0
  fuzzy := false
  highlight := true
  advanced := false

/-- The greatest length of a query text, in bytes. -/
def maxLength : Nat := 1000

inductive Refusal where
  | tooLong
  | limitOutOfRange (most : Nat)
  | blankField
  deriving DecidableEq, Repr

def Refusal.message : Refusal → String
  | .tooLong => "Query too long, maximum " ++ toString maxLength ++ " characters"
  | .limitOutOfRange most => "Limit must be between 1 and " ++ toString most
  | .blankField => "Field filter entries cannot be empty"

def refusal? (r : Request) (maxLimit : Nat) : Option Refusal :=
  if maxLength < r.text.utf8ByteSize then some .tooLong
  else if r.limit = 0 || maxLimit < r.limit then some (.limitOutOfRange maxLimit)
  else if r.fields.any fun f => Text.isBlankText f.toList then some .blankField
  else none

def validate (r : Request) (maxLimit : Nat) : Except SearchError Unit :=
  match r.refusal? maxLimit with
  | some refusal => .error (.invalidInput refusal.message)
  | none => .ok ()

end Request

def normalizeText (text : String) : String :=
  String.ofList (Text.trim (Text.nfkc text.toList))

end Dossier
