import Dossier.Decimal.Shortest
import Dossier.Json.Basic

/-!
The values of a profile: scalars, sequences and mappings, nested to any depth. Two traversals list
the scalars of a value in order, one with their texts and one with their paths.
-/

namespace Dossier

inductive Scalar where
  | null
  | bool (b : Bool)
  | integer (n : Int)
  | float (x : Float)
  | text (s : String)
  deriving Repr

/-- The text that a query is matched against; null has none. -/
def Scalar.text? : Scalar → Option String
  | .null => none
  | .bool b => some (if b then "true" else "false")
  | .integer n => some (toString n)
  | .float x => some (Decimal.floatText x)
  | .text s => some s

inductive Value where
  | scalar (s : Scalar)
  | sequence (items : List Value)
  | mapping (entries : List (String × Value))

instance : Coe Scalar Value := ⟨.scalar⟩

namespace Value

mutual

def isKeyed : Value → Bool
  | .scalar _ => true
  | .sequence items => areKeyed items
  | .mapping entries => decide (Ordered entries) && entriesKeyed entries

def areKeyed : List Value → Bool
  | [] => true
  | v :: rest => isKeyed v && areKeyed rest

def entriesKeyed : List (String × Value) → Bool
  | [] => true
  | (_, v) :: rest => isKeyed v && entriesKeyed rest

end

mutual

def texts : Value → List String
  | .scalar s => s.text?.toList
  | .sequence items => itemTexts items
  | .mapping entries => entryTexts entries

def itemTexts : List Value → List String
  | [] => []
  | v :: rest => texts v ++ itemTexts rest

def entryTexts : List (String × Value) → List String
  | [] => []
  | (_, v) :: rest => texts v ++ entryTexts rest

end

/-- Appends a segment to a path; the path of a whole is empty. -/
def joinPath (path segment : String) : String :=
  if path.isEmpty then segment else path ++ "." ++ segment

mutual

/-- The scalars inside, in order, with their paths below `path`: the keys and positions that lead
to them. -/
def leaves (path : String) : Value → List (String × Scalar)
  | .scalar s => [(path, s)]
  | .sequence items => itemLeaves path 0 items
  | .mapping entries => entryLeaves path entries

def itemLeaves (path : String) (i : Nat) : List Value → List (String × Scalar)
  | [] => []
  | v :: rest => leaves (joinPath path (toString i)) v ++ itemLeaves path (i + 1) rest

def entryLeaves (path : String) : List (String × Value) → List (String × Scalar)
  | [] => []
  | (k, v) :: rest => leaves (joinPath path k) v ++ entryLeaves path rest

end

def isMapping : Value → Bool
  | .mapping _ => true
  | _ => false

def ofNumber : Number → Scalar
  | .whole n => if n < Number.signedLimit then .integer n else .float (Float.ofInt n)
  | .double x => .float x

mutual

def ofJson : Json → Value
  | .null => .scalar .null
  | .bool b => .scalar (.bool b)
  | .number n => .scalar (ofNumber n)
  | .text s => .scalar (.text s)
  | .array items => .sequence (ofItems items)
  | .object members => .mapping (ofEntries (ofMembers members))

def ofItems : List Json → List Value
  | [] => []
  | j :: rest => ofJson j :: ofItems rest

def ofMembers : List (String × Json) → List (String × Value)
  | [] => []
  | (k, j) :: rest => (k, ofJson j) :: ofMembers rest

end

theorem entriesKeyed_iff {entries : List (String × Value)} :
    entriesKeyed entries = true ↔ ∀ e ∈ entries, e.2.isKeyed = true := by
  induction entries with
  | nil => simp [entriesKeyed]
  | cons e rest ih => simp [entriesKeyed, ih]

mutual

theorem isKeyed_ofJson : ∀ j : Json, (ofJson j).isKeyed = true
  | .null | .bool _ | .number _ | .text _ => by simp [ofJson, isKeyed]
  | .array items => by simpa [ofJson, isKeyed] using areKeyed_ofItems items
  | .object members => by
    have keyed := entriesKeyed_ofMembers members
    simp only [ofJson, isKeyed, Bool.and_eq_true, decide_eq_true_eq]
    refine ⟨ordered_ofEntries _, entriesKeyed_iff.2 fun e he => ?_⟩
    exact entriesKeyed_iff.1 keyed e (mem_ofEntries he)

theorem areKeyed_ofItems : ∀ items : List Json, areKeyed (ofItems items) = true
  | [] => rfl
  | j :: rest => by simp [ofItems, areKeyed, isKeyed_ofJson j, areKeyed_ofItems rest]

theorem entriesKeyed_ofMembers :
    ∀ members : List (String × Json), entriesKeyed (ofMembers members) = true
  | [] => rfl
  | (_, j) :: rest => by
    simp [ofMembers, entriesKeyed, isKeyed_ofJson j, entriesKeyed_ofMembers rest]

end

end Value

structure Profile where
  sections : List (String × Value)
  keyed : (Value.mapping sections).isKeyed = true

namespace Profile

def empty : Profile := ⟨[], rfl⟩

def ofJson (j : Json) : Profile :=
  match h : Value.ofJson j with
  | .mapping sections => ⟨sections, h ▸ Value.isKeyed_ofJson j⟩
  | _ => empty

def leaves (p : Profile) : List (String × Scalar) :=
  p.sections.flatMap fun (name, v) => v.leaves name

def leafTexts (p : Profile) : List (String × String) :=
  p.leaves.filterMap fun (path, s) => s.text?.map fun text => (path, text)

end Profile

end Dossier
