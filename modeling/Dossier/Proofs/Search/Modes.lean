import Dossier.Proofs.Query.Plain
import Dossier.Proofs.Search.Listing

/-!
The two readings of a text, as a query and as a list of words. Plain text means the same to both, and
a search for it that makes no use of near misses gives the same answer.
-/

namespace Dossier

theorem Request.expr?_of_plain {q : Request} (plain : Query.IsPlain (normalizeText q.text)) :
    q.expr? = Query.freeText (normalizeText q.text) := by
  unfold expr?
  dsimp only
  generalize normalizeText q.text = text at plain ⊢
  cases q.advanced with
  | false => exact if_neg Bool.false_ne_true
  | true => exact (if_pos rfl).trans (Query.built_of_plain plain)

namespace Engine

variable {q : Request}

theorem rankedResults_of_exact (h : q.fuzzy = false) (e : Engine) (w : Wish)
    (candidates : List Record) :
    e.rankedResults q w candidates = SearchResult.ranked (e.matching q w.expr candidates) := by
  rw [rankedResults, withNear, Near.isWanted, h]
  rfl

theorem search_of_plain (h : q.fuzzy = false) (plain : Query.IsPlain (normalizeText q.text))
    (e : Engine) (s : Source) :
    e.search s { q with advanced := true } = e.search s { q with advanced := false } := by
  have wish (advanced : Bool) : wish? advanced (normalizeText q.text) =
      (Query.freeText (normalizeText q.text)).map fun expr =>
        ⟨expr, { q with advanced := advanced }.nearText⟩ := by
    rw [← Request.expr?_of_plain (q := { q with advanced := advanced }) plain]
    exact wish?_eq_map { q with advanced := advanced }
  have exact (advanced : Bool) (w : Wish) (records : List Record) :
      e.rankedResults { q with advanced := advanced } w records =
        SearchResult.ranked (e.matching q w.expr records) :=
    rankedResults_of_exact (q := { q with advanced := advanced }) h e w records
  unfold search
  dsimp only
  rw [wish true, wish false]
  cases Query.freeText (normalizeText q.text) with
  | none => rfl
  | some expr =>
    dsimp only [Option.map_some]
    cases s.candidates q.collection (normalizeText q.text) with
    | error f => rfl
    | ok records =>
      dsimp only
      rw [exact true, exact false]
      rfl

/-- Plain text reads alike as a query and as a list of words, and as a query it is in error only if
it is blank. So a search for it, without near misses, is the same search either way. -/
theorem plain_text_reads_alike (text : String) (plain : Query.IsPlain text) :
    Query.build (Query.parse text).tokens = Query.freeText text ∧
    (Query.parse text).error = (if Text.isBlankText text.toList then some .empty else none) ∧
    ∀ (e : Engine) (s : Source) (q : Request), q.fuzzy = false → normalizeText q.text = text →
      e.search s { q with advanced := true } = e.search s { q with advanced := false } := by
  refine ⟨Query.build_of_plain plain, Query.error_of_plain plain, ?_⟩
  rintro e s q exact rfl
  exact search_of_plain exact plain e s

/-- A colon at the end, an address, wildcards and an operator in lower case are plain. -/
theorem plain_text_reads_alike_address :
    let text := "jon: http://x.org/a?b and"
    let q := Request.ofText text
    Query.IsPlain text ∧ (Query.parse text).error = none ∧
      ∀ (e : Engine) (st : Store),
        e.search st.source { q with advanced := true } = e.search st.source q := by
  intro text q
  have plain : Query.IsPlain text := by decide +kernel
  have normal : normalizeText q.text = text := by decide +kernel
  obtain ⟨_, error, alike⟩ := plain_text_reads_alike text plain
  refine ⟨plain, ?_, fun e st => alike e st.source q rfl normal⟩
  rw [error]
  decide +kernel

end Engine

end Dossier
