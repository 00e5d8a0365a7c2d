import Dossier.Json.Shape
import Dossier.Schema

/-!
The JSON form of a schema. A field is searchable and not in the summary if nothing else is said.
-/

namespace Dossier.Schema

def Field.json (f : Field) : Json :=
  .object [("name", .text f.name), ("searchable", .bool f.searchable), ("summary", .bool f.summary)]

def Field.shape : Shape Field :=
  Shape.record { name := "" } [
    .required "name" Shape.text fun s f => { f with name := s },
    .optional "searchable" Shape.bool fun b f => { f with searchable := b },
    .optional "summary" Shape.bool fun b f => { f with summary := b }]

def Section.json (s : Section) : Json :=
  .object [("name", .text s.name), ("fields", .array (s.fields.map Field.json))]

def Section.shape : Shape Section :=
  Shape.record ⟨"", []⟩ [
    .required "name" Shape.text fun s part => { part with name := s },
    .optional "fields" (Shape.list Field.shape) fun fs part => { part with fields := fs }]

def json (s : Schema) : Json := .object [("sections", .array (s.sections.map Section.json))]

def shape : Shape Schema :=
  Shape.record ⟨[]⟩ [
    .required "sections" (Shape.list Section.shape) fun parts s => { s with sections := parts }]

end Dossier.Schema
