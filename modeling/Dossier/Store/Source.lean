import Dossier.Error
import Dossier.Profile.Record

/-!
What a search reads: collections, records and an index, each of which may fail. An index is a help
only, and whoever cannot use it reads all records.
-/

namespace Dossier

structure IndexHit where
  score : Float
  record : Record

structure Source where
  collections : Except StoreError (List String)
  records : String → Except StoreError (List Record)
  record? : String → String → Except StoreError (Option Record)
  indexed : Option String → String → Except StoreError (List IndexHit)

namespace Source

/-- All records of a collection, or of all collections. Of all, those that cannot be read are left
out. -/
def scan (s : Source) (collection : Option String) : Except StoreError (List Record) :=
  match collection with
  | some name => s.records name
  | none => s.collections.map (·.flatMap fun name => (s.records name).toOption.getD [])

/-- The records to search: those of the index, or all if it cannot be used. -/
def candidates (s : Source) (collection : Option String) (text : String) :
    Except StoreError (List Record) :=
  match s.indexed collection text with
  | .ok hits => .ok (hits.map (·.record))
  | .error _ => s.scan collection

end Source

end Dossier
