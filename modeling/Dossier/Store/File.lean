import Dossier.Json.Shape
import Dossier.Store.Basic

/-!
Store files: the records of each collection, as JSON.
-/

namespace Dossier

def Timestamp.shape : Shape Timestamp := fun n => do
  match Timestamp.read? (← Shape.text n) with
  | some t => return t
  | none => throw .mismatched

/-- The sections of a profile. It lies inside a record, a list, a dictionary and a file, and leaves
as many levels as these do not take. -/
def Profile.shape : Shape Profile
  | .object members ending => (Node.object members ending |>.json (Json.maxDepth - 4)).map .ofJson
  | n => n.mismatch

def Record.shape : Shape Record :=
  Shape.record ⟨"", "", Record.defaultKind, .empty, none⟩ [
    .required "id" Shape.text fun s r => { r with id := s },
    .optional "collection_id" Shape.text fun s r => { r with collection := s },
    .optional "record_type" Shape.text fun s r => { r with kind := s },
    .optional "profile" Profile.shape fun p r => { r with profile := p },
    .optional "created_at" (Shape.nullable Timestamp.shape) fun t r => { r with createdAt := t }]

namespace Store

def collectionsShape : Shape (Dict (List Record)) := Shape.dict (Shape.list Record.shape)

def shape : Shape Store := fun n =>
  (Shape.record .empty [.optional "collections" collectionsShape fun d _ => d] n).map .ofCollections

def ofFile? (text : String) : Except Fault Store := shape.readText text.toList

end Store

end Dossier
