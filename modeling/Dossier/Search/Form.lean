import Dossier.Json.Shape
import Dossier.Search.Request
import Dossier.Search.Result

/-!
The JSON forms of requests and of results.
-/

namespace Dossier

namespace Request

def json (r : Request) : Json :=
  .object [("text", .text r.text), ("collection", .ofOption .text r.collection),
    ("record_types", .ofStrings r.kinds), ("fields", .ofStrings r.fields),
    ("limit", .ofNat r.limit), ("offset", .ofNat r.offset), ("fuzzy", .bool r.fuzzy),
    ("highlight", .bool r.highlight), ("advanced", .bool r.advanced)]

def shape : Shape Request :=
  Shape.record (ofText "") [
    .required "text" Shape.text fun s r => { r with text := s },
    .optional "collection" (Shape.nullable Shape.text) fun c r => { r with collection := c },
    .optional "record_types" (Shape.list Shape.text) fun ks r => { r with kinds := ks },
    .optional "fields" (Shape.list Shape.text) fun fs r => { r with fields := fs },
    .optional "limit" Shape.count fun n r => { r with limit := n },
    .optional "offset" Shape.count fun n r => { r with offset := n },
    .optional "fuzzy" Shape.bool fun b r => { r with fuzzy := b },
    .optional "highlight" Shape.bool fun b r => { r with highlight := b },
    .optional "advanced" Shape.bool fun b r => { r with advanced := b }]

end Request

def SearchResult.json (r : SearchResult) : Json :=
  .object [("record_id", .text r.id), ("collection_id", .text r.collection),
    ("record_type", .text r.kind), ("score", .number (.double r.score)),
    ("highlights", .ofDict .ofStrings r.highlights),
    ("matched_fields", .ofStrings r.matchedFields), ("record_summary", .ofDict .text r.summary)]

end Dossier
