import Dossier.Proofs.Match.Meaning
import Dossier.Proofs.Store.Scope
import Dossier.Search.Engine

/-!
What a request lists before a page is cut, in terms of the store and the request alone. The records
in question that the request allows and that match are found, near misses are added if they are
wanted, and all of them are ranked.
-/

namespace Dossier

/-- What a result says apart from where it matched: its address, its kind and its score. -/
def SearchResult.row (s : SearchResult) : String × String × String × Float :=
  (s.collection, s.id, s.kind, s.score)

def Page.rows (p : Page) : Nat × List (String × String × String × Float) :=
  (p.total, p.results.map SearchResult.row)

namespace Request

/-- The expression that a request asks for: that of a text without errors, or all words of a plain
text. -/
def expr? (q : Request) : Option Query.Expr :=
  let text := normalizeText q.text
  if q.advanced then
    if (Query.parse text).error = none then Query.build (Query.parse text).tokens else none
  else Query.freeText text

/-- The text that near misses are compared with: a plain text itself, or all that a query does not
negate. -/
def nearText (q : Request) : String :=
  let text := normalizeText q.text
  if q.advanced then (Query.parse text).positiveText else text

end Request

namespace Engine

section

variable (e : Engine) (q : Request) (expr : Query.Expr)

def evaluation (r : Record) : Evaluation := expr.evaluation (.record r) (e.settingOf q)

def found (scope : List Record) : List Record :=
  scope.filter fun r => allows q r && (e.evaluation q expr r).matched

def ownResult (r : Record) : SearchResult := e.resultOf r (e.evaluation q expr r)

def listing (scope : List Record) : List SearchResult :=
  SearchResult.ranked <|
    e.withNear q q.nearText (scope.filter (allows q))
      ((e.found q expr scope).map (e.ownResult q expr))

end

variable {e : Engine} {st : Store} {q : Request} {expr : Query.Expr} {scope : List Record}

theorem wish?_eq_map (q : Request) :
    wish? q.advanced (normalizeText q.text) = q.expr?.map fun expr => ⟨expr, q.nearText⟩ := by
  unfold wish? Request.expr? Request.nearText
  cases empty : (normalizeText q.text).isEmpty with
  | true =>
    -- The empty text needs no case of its own: neither reading finds a term in it.
    have : normalizeText q.text = "" := String.isEmpty_iff.mp empty
    rw [this]
    cases q.advanced <;> rfl
  | false =>
    cases q.advanced with
    | false => simp
    | true =>
      cases error : (Query.parse (normalizeText q.text)).error with
      | none => simp [error]
      | some _ => simp [error]

theorem search_of_nothing (source : Source) (h : q.expr? = none) :
    e.search source q = .ok .empty := by
  simp only [search, wish?_eq_map, h, Option.map_none]

theorem matching_eq_map (e : Engine) (q : Request) (expr : Query.Expr) (candidates : List Record) :
    e.matching q expr candidates =
      (candidates.filter fun r => (e.evaluation q expr r).matched).map (e.ownResult q expr) := by
  have unfolded : e.matching q expr candidates = candidates.filterMap fun r =>
      if (e.evaluation q expr r).matched then some (e.ownResult q expr r) else none := rfl
  rw [unfolded]
  clear unfolded
  induction candidates with
  | nil => rfl
  | cons r rest ih =>
    rw [List.filterMap_cons, ih]
    cases matched : (e.evaluation q expr r).matched <;> simp [matched]

theorem found_eq_filter (e : Engine) (q : Request) (expr : Query.Expr) (scope : List Record) :
    e.found q expr scope =
      (scope.filter (allows q)).filter fun r => (e.evaluation q expr r).matched := by
  rw [List.filter_filter, found]
  exact List.filter_congr fun r _ => Bool.and_comm _ _

theorem listing_of_idle
    (idle : Near.isWanted e.similarity q.fuzzy (e.found q expr scope).length q.limit = false) :
    e.listing q expr scope =
      SearchResult.ranked ((e.found q expr scope).map (e.ownResult q expr)) := by
  rw [listing, withNear, List.length_map, idle]
  rfl

theorem listing_of_exact (h : q.fuzzy = false) :
    e.listing q expr scope =
      SearchResult.ranked ((e.found q expr scope).map (e.ownResult q expr)) := by
  refine listing_of_idle ?_
  rw [Near.isWanted, h]
  rfl

def pageOf (e : Engine) (q : Request) (expr : Query.Expr) (records : List Record) : Page :=
  ⟨(e.listing q expr records).length, slice (e.listing q expr records) q.offset q.limit⟩

/-- A request reads the candidates once, and fails only where they cannot be read. -/
theorem search_of_asked (source : Source) (asked : q.expr? = some expr) :
    e.search source q =
      ((source.candidates q.collection (normalizeText q.text)).map (e.pageOf q expr)).mapError
        .store := by
  have results (records : List Record) :
      e.rankedResults q ⟨expr, q.nearText⟩ (records.filter (allows q)) =
        e.listing q expr records := by
    rw [rankedResults, matching_eq_map, ← found_eq_filter, listing]
  simp only [search, wish?_eq_map, asked, Option.map_some, results]
  cases source.candidates q.collection (normalizeText q.text) with
  | error f => rfl
  | ok records => rfl

theorem search_of_candidates {source : Source} {records : List Record} (asked : q.expr? = some expr)
    (read : ∀ text, source.candidates q.collection text = .ok records) :
    e.search source q = .ok ⟨(e.listing q expr records).length,
      slice (e.listing q expr records) q.offset q.limit⟩ := by
  rw [search_of_asked source asked, read]
  rfl

theorem search_of_failed_candidates {source : Source} {f : StoreError} (asked : q.expr? = some expr)
    (failed : ∀ text, source.candidates q.collection text = .error f) :
    e.search source q = .error (.store f) := by
  rw [search_of_asked source asked, failed]
  rfl

theorem exists_candidates_of_search {source : Source} {page : Page} (asked : q.expr? = some expr)
    (answered : e.search source q = .ok page) :
    ∃ records, source.candidates q.collection (normalizeText q.text) = .ok records ∧
      page = e.pageOf q expr records := by
  rw [search_of_asked source asked] at answered
  cases read : source.candidates q.collection (normalizeText q.text) with
  | error f =>
    rw [read] at answered
    cases answered
  | ok records =>
    rw [read] at answered
    exact ⟨records, rfl, (Except.ok.inj answered).symm⟩

theorem search_of_scope (asked : q.expr? = some expr)
    (inScope : st.scope? q.collection = some scope) :
    e.search st.source q = .ok ⟨(e.listing q expr scope).length,
      slice (e.listing q expr scope) q.offset q.limit⟩ := by
  refine search_of_candidates asked fun text => ?_
  rw [Store.candidates_eq_scan, Store.scan_of_scope? inScope]

theorem search_of_unknown {name : String} (asked : q.expr? = some expr)
    (named : q.collection = some name) (unknown : st.scope? (some name) = none) :
    e.search st.source q = .error (.store (.collectionNotFound name)) := by
  refine search_of_failed_candidates asked fun text => ?_
  rw [Store.candidates_eq_scan, named, Store.scan_of_unknown unknown]

theorem exists_scope_of_search {page : Page} (asked : q.expr? = some expr)
    (answered : e.search st.source q = .ok page) :
    ∃ scope, st.scope? q.collection = some scope := by
  cases inScope : st.scope? q.collection with
  | some scope => exact ⟨scope, rfl⟩
  | none =>
    cases named : q.collection with
    | none =>
      rw [named] at inScope
      cases inScope
    | some name =>
      rw [named] at inScope
      rw [search_of_unknown asked named inScope] at answered
      cases answered

end Engine

end Dossier
