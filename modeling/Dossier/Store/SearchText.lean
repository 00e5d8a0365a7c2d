import Dossier.Profile.Lookup
import Dossier.Profile.Record
import Dossier.Text.Case
import Dossier.Text.Occurrence

/-!
The text by which the index knows a record: the lower case of all its searched texts, and the share
of the words of a query that it holds.
-/

namespace Dossier.SearchText

/-- The texts of the given fields, in lower case and without the blanks around them; empty ones are
left out, and a space stands between two. -/
def ofRecord (r : Record) (fields : List String) : String :=
  let texts := (fields.flatMap r.profile.occurrences).flatMap fun (_, v) => v.texts
  let lowered := texts.map fun t => Text.lowercase (Text.trim t.toList)
  " ".intercalate ((lowered.filter (!·.isEmpty)).map String.ofList)

def wordsOf (query : String) : List (List Char) := (Text.words query.toList).map Text.lowercase

/-- The share of the words that occur in the text; zero if there are none. -/
def share (words : List (List Char)) (text : String) : Float :=
  if words.isEmpty then 0.0
  else Float.ofNat (words.countP (Text.contains text.toList)) / Float.ofNat words.length

end Dossier.SearchText
