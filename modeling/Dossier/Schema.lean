import Dossier.Profile.Lookup
import Dossier.Profile.Record

/-!
Schemas: the declared fields of a profile, by section. The schema says which fields are searched
when a query names none, and which are shown in the summary of a record.
-/

namespace Dossier

namespace Schema

structure Field where
  name : String
  searchable : Bool := true
  summary : Bool := false
  deriving DecidableEq, Repr

structure Section where
  name : String
  fields : List Field
  deriving DecidableEq, Repr

end Schema

structure Schema where
  sections : List Schema.Section
  deriving DecidableEq, Repr

namespace Schema

def fields (s : Schema) : List (String × Field) :=
  s.sections.flatMap fun part =>
    part.fields.map fun field => (part.name ++ "." ++ field.name, field)

def searchable (s : Schema) : List String :=
  (s.fields.filter (·.2.searchable)).map (·.1)

def summaryPaths (s : Schema) : List String :=
  (s.fields.filter (·.2.summary)).map (·.1)

/-- The summary fields that the record has a text for; the texts of one field are listed. -/
def summarize (s : Schema) (r : Record) : Dict String :=
  Dict.ofList <|
    s.summaryPaths.filterMap fun path =>
      match (r.profile.get? path).map (·.texts) with
      | some (t :: ts) => some (path, ", ".intercalate (t :: ts))
      | _ => none

def default : Schema where
  sections := [
    ⟨"core", [{ name := "name", summary := true }, { name := "aliases" },
      { name := "email", summary := true }, { name := "phone" }, { name := "username" },
      { name := "dob" }]⟩,
    ⟨"location", [{ name := "city" }, { name := "country" }, { name := "address" }]⟩,
    ⟨"social", [{ name := "profiles" }]⟩,
    ⟨"tags", [{ name := "status", summary := true }, { name := "category" }]⟩,
    ⟨"notes", [{ name := "summary" }]⟩]

end Schema

end Dossier
