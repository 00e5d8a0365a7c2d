import Dossier.Profile.Value
import Dossier.Timestamp

/-!
Records: profiles with an address. An id is unique within its collection at most, so that a record
is told by collection and id.
-/

namespace Dossier

structure Record where
  collection : String
  id : String
  kind : String
  profile : Profile
  createdAt : Option Timestamp

namespace Record

def defaultKind : String := "profile"

def key (r : Record) : String × String := (r.collection, r.id)

end Record

end Dossier
