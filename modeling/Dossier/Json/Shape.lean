import Dossier.Json.Document

/-!
Reading a tree in a given shape. A shape visits its tree in order, so that the first problem of the
text is the one reported; a scalar is read before it is found to be of the wrong kind. The fields
of a record are given by name in an object, or in order in an array.
-/

namespace Dossier

abbrev Shape (α : Type) := Node → Except Fault α

namespace Node

def checkEnd (ending : Option Break) : Except Fault Unit :=
  match ending with
  | none => .ok ()
  | some b => .error b.reading

def checkSkipped (ending : Option Break) : Except Fault Unit :=
  match ending with
  | none => .ok ()
  | some b => .error b.skipping

mutual

def skip : Node → Except Fault Unit
  | .array items ending => do skipItems items; checkSkipped ending
  | .object members ending => do skipMembers members; checkSkipped ending
  | .broken b => .error b.skipping
  | _ => .ok ()

def skipItems : List Node → Except Fault Unit
  | [] => .ok ()
  | n :: rest => do skip n; skipItems rest

def skipMembers : List (Key × Node) → Except Fault Unit
  | [] => .ok ()
  | (_, n) :: rest => do skip n; skipMembers rest

end

def mismatch {α : Type} : Shape α
  | .number (.error f) | .text (.error f) => .error f
  | .broken b => .error b.reading
  | _ => .error .mismatched

mutual

def json (room : Nat) : Node → Except Fault Json
  | .null => .ok .null
  | .bool b => .ok (.bool b)
  | .number (.ok n) => .ok (.number n)
  | .text (.ok s) => .ok (.text s)
  | .array items ending => do
    if room = 0 then throw .malformed
    let values ← jsonItems (room - 1) items
    checkEnd ending
    return .array values
  | .object members ending => do
    if room = 0 then throw .malformed
    let entries ← jsonMembers (room - 1) members
    checkEnd ending
    return .object (ofEntries entries)
  | n => mismatch n

def jsonItems (room : Nat) : List Node → Except Fault (List Json)
  | [] => .ok []
  | n :: rest => do return (← json room n) :: (← jsonItems room rest)

def jsonMembers (room : Nat) : List (Key × Node) → Except Fault (List (String × Json))
  | [] => .ok []
  | (k, n) :: rest => do
    let key ← k
    return (key, ← json room n) :: (← jsonMembers room rest)

end

mutual

def ofJson : Json → Node
  | .null => .null
  | .bool b => .bool b
  | .number n => .number (.ok n)
  | .text s => .text (.ok s)
  | .array items => .array (ofItems items) none
  | .object members => .object (ofMembers members) none

def ofItems : List Json → List Node
  | [] => []
  | j :: rest => ofJson j :: ofItems rest

def ofMembers : List (String × Json) → List (Key × Node)
  | [] => []
  | (k, j) :: rest => (.ok k, ofJson j) :: ofMembers rest

end

end Node

namespace Shape

def text : Shape String
  | .text (.ok s) => .ok s
  | n => n.mismatch

def bool : Shape Bool
  | .bool b => .ok b
  | n => n.mismatch

def count : Shape Nat
  | .number (.ok (.whole n)) =>
    if 0 ≤ n && n < Number.limit then .ok n.toNat else .error .mismatched
  | n => n.mismatch

def nullable {α : Type} (s : Shape α) : Shape (Option α)
  | .null => .ok none
  | n => (s n).map some

def list {α : Type} (s : Shape α) : Shape (List α)
  | .array items ending => do
    let values ← items.mapM s
    Node.checkEnd ending
    return values
  | n => n.mismatch

def dict {α : Type} (s : Shape α) : Shape (Dict α)
  | .object members ending => do
    let entries ← members.mapM fun (k, n) => do return ((← k), ← s n)
    Node.checkEnd ending
    return Dict.ofList entries
  | n => n.mismatch

end Shape

/-- A field of a record of type `σ`: what reading it does to the record. A field may be left out of
an object, or left off at the end of an array; the record then keeps what it had. -/
structure FieldShape (σ : Type) where
  name : String
  read : Shape (σ → σ)
  mayOmit : Bool
  mayDrop : Bool

namespace FieldShape

def required {σ α : Type} (name : String) (s : Shape α) (set : α → σ → σ) : FieldShape σ :=
  ⟨name, fun n => (s n).map set, false, false⟩

def optional {σ α : Type} (name : String) (s : Shape α) (set : α → σ → σ) : FieldShape σ :=
  ⟨name, fun n => (s n).map set, true, true⟩

/-- A value that may be null: it may be left out of an object, but has its place in an array. -/
def placed {σ α : Type} (name : String) (s : Shape α) (set : Option α → σ → σ) : FieldShape σ :=
  ⟨name, fun n => (s.nullable n).map set, true, false⟩

/-- Reads the members of an object. A field that is given twice, or is missing at the end, is of
the wrong shape; members without a field are skipped. -/
def readMembers {σ : Type} (fields : List (FieldShape σ)) (ending : Option Break)
    (seen : List String) (state : σ) : List (Key × Node) → Except Fault σ
  | [] => do
    Node.checkEnd ending
    if fields.all fun f => f.mayOmit || seen.contains f.name then return state
    else throw .mismatched
  | (k, n) :: rest => do
    let key ← k
    match fields.find? (·.name = key) with
    | none => do
      n.skip
      readMembers fields ending seen state rest
    | some f =>
      if seen.contains key then throw .mismatched
      let change ← f.read n
      readMembers fields ending (key :: seen) (change state) rest

/-- Reads the items of an array in the order of the fields; nothing may follow the last. -/
def readItems {σ : Type} (ending : Option Break) (state : σ) :
    List (FieldShape σ) → List Node → Except Fault σ
  | f :: fields, n :: rest => do
    let change ← f.read n
    readItems ending (change state) fields rest
  | fields, [] => do
    Node.checkEnd ending
    if fields.all (·.mayDrop) then return state else throw .mismatched
  | [], _ :: _ => throw .malformed

end FieldShape

def Shape.record {σ : Type} (initial : σ) (fields : List (FieldShape σ)) : Shape σ
  | .object members ending => FieldShape.readMembers fields ending [] initial members
  | .array items ending => FieldShape.readItems ending initial fields items
  | n => n.mismatch

def Shape.readText {α : Type} (s : Shape α) (cs : List Char) : Except Fault α := do
  let d := Document.read cs
  let value ← s d.root
  if d.trailing then throw .malformed
  return value

def Json.maxDepth : Nat := 127

def Json.readText : List Char → Except Fault Json := Shape.readText (Node.json Json.maxDepth)

end Dossier
