/-!
What may go wrong in a store or in a search, with the code and the message of each.
-/

namespace Dossier

inductive StoreError where
  | collectionNotFound (name : String)
  | indexUnavailable (reason : String)
  | backend (reason : String)
  | io (reason : String)
  deriving DecidableEq, Repr

def StoreError.message : StoreError → String
  | .collectionNotFound name => "Collection not found: " ++ name
  | .indexUnavailable reason => "Search index unavailable: " ++ reason
  | .backend reason => "Store backend failure: " ++ reason
  | .io reason => "I/O error: " ++ reason

inductive SearchError where
  | invalidInput (reason : String)
  | store (e : StoreError)
  | timeout (reason : String)
  | internal (reason : String)
  deriving DecidableEq, Repr

namespace SearchError

def code : SearchError → String
  | .invalidInput _ => "invalid_input"
  | .store (.collectionNotFound _) => "not_found"
  | .store _ => "store_error"
  | .timeout _ => "timeout"
  | .internal _ => "internal_error"

def message : SearchError → String
  | .invalidInput reason => "Invalid input: " ++ reason
  | .store e => "Store error: " ++ e.message
  | .timeout reason => "Timeout: " ++ reason
  | .internal reason => "Internal error: " ++ reason

end SearchError

end Dossier
