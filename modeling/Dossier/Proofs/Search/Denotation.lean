import Dossier.Proofs.Search.Listing
import Dossier.Proofs.Search.Ranking
import Dossier.Proofs.Text.Normal
import Mathlib.Data.List.Forall2

/-!
What a search without near misses answers, in terms of the store and the request alone. The records
in question that the request allows and that match have one result each, the results are ranked by
the scores of the records' own evaluations, and a page is cut from them. All of this is about
searches that do not abort: which of them do is said by `Engine.aborts`.
-/

namespace Dossier

namespace Engine

variable {e : Engine} {st : Store} {q : Request} {expr : Query.Expr} {records : List Record}
  {listed : List SearchResult}

end Engine

end Dossier
