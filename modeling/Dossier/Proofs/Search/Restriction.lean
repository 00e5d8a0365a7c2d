import Dossier.Proofs.Search.Denotation

/-!
Restricting a search. The results of one collection, or of some kinds of records, are those results
of the whole store, in the order that they have there.
-/

namespace Dossier

/-- The result is for a record of the collection and of the kinds; no collection means any, and no
kinds mean all. -/
def SearchResult.isWithin (collection : Option String) (kinds : List String) (s : SearchResult) :
    Bool :=
  collection.all (s.collection = ·) && (kinds.isEmpty || kinds.contains s.kind)

namespace Engine

/-- Every page of a request, at any limit, is cut from one list. -/
def ListsWhole (e : Engine) (st : Store) (q : Request) (all : List SearchResult) : Prop :=
  ∀ offset limit, e.search st.source { q with offset := offset, limit := limit } =
    .ok ⟨all.length, slice all offset limit⟩

variable {e : Engine} {st : Store} {q : Request} {expr : Query.Expr} {scope : List Record}

theorem ListsWhole.unique {xs ys : List SearchResult} (hx : e.ListsWhole st q xs)
    (hy : e.ListsWhole st q ys) : xs = ys := by
  have same := Except.ok.inj ((hx 0 ys.length).symm.trans (hy 0 ys.length))
  have total : xs.length = ys.length := congrArg Page.total same
  have page : slice xs 0 ys.length = slice ys 0 ys.length := congrArg Page.results same
  rw [slice, slice, List.drop_zero, List.drop_zero, List.take_length, ← total, List.take_length]
    at page
  exact page

theorem listsWhole_of_nothing (h : q.expr? = none) : e.ListsWhole st q [] := by
  intro offset limit
  have nothing := search_of_nothing (e := e) (q := { q with offset := offset, limit := limit })
    st.source h
  rw [nothing, slice, List.drop_nil, List.take_nil]
  rfl

theorem listsWhole_of_exact (h : q.fuzzy = false) (asked : q.expr? = some expr)
    (inScope : st.scope? q.collection = some scope) :
    e.ListsWhole st q (SearchResult.ranked ((e.found q expr scope).map (e.ownResult q expr))) := by
  intro offset limit
  have listed := search_of_scope (e := e) (q := { q with offset := offset, limit := limit }) asked
    inScope
  rw [listing_of_exact (q := { q with offset := offset, limit := limit }) h] at listed
  exact listed

theorem ownResults_restricted {collection : Option String} {kinds : List String}
    (anyKind : q.kinds = []) (inScope : st.scope? collection = some scope) :
    (e.found { q with collection := collection, kinds := kinds } expr scope).map
        (e.ownResult { q with collection := collection, kinds := kinds } expr) =
      ((e.found q expr st.allRecords).map (e.ownResult q expr)).filter
        (SearchResult.isWithin collection kinds) := by
  rw [Store.eq_filter_of_scope? inScope, List.filter_map]
  refine congrArg (List.map (e.ownResult q expr)) ?_
  rw [found, found, List.filter_filter, List.filter_filter]
  refine List.filter_congr fun r _ => ?_
  have all : allows q r = true := by
    rw [allows, anyKind]
    rfl
  rw [all, Bool.true_and]
  exact (Bool.and_comm _ _).trans (Bool.and_assoc _ _ _).symm

/-- The ranked list of a request, restricted to a collection of the store, to some kinds of records
or to both, is what is left of the list of the request when only such results are kept. -/
theorem restricted_search_filters (e : Engine) (st : Store) (q : Request) (plain : q.fuzzy = false)
    (everywhere : q.collection = none) (anyKind : q.kinds = []) :
    (∃ all, e.ListsWhole st q all) ∧
    ∀ all, e.ListsWhole st q all → ∀ (collection : Option String) (kinds : List String),
      (∀ name, collection = some name → name ∈ st.collectionNames) →
        e.ListsWhole st { q with collection := collection, kinds := kinds }
          (all.filter (SearchResult.isWithin collection kinds)) := by
  cases asked : q.expr? with
  | none =>
    have nothing : e.ListsWhole st q [] := listsWhole_of_nothing asked
    refine ⟨⟨[], nothing⟩, fun all listed collection kinds _ => ?_⟩
    rw [listed.unique nothing]
    exact listsWhole_of_nothing (q := { q with collection := collection, kinds := kinds }) asked
  | some expr =>
    have whole : st.scope? q.collection = some st.allRecords := by
      rw [everywhere]
      rfl
    have own := listsWhole_of_exact (e := e) plain asked whole
    refine ⟨⟨_, own⟩, fun all listed collection kinds known => ?_⟩
    obtain ⟨scope, inScope⟩ : ∃ scope, st.scope? collection = some scope := by
      cases collection with
      | none => exact ⟨_, rfl⟩
      | some name => exact Dict.mem_keys_iff.mp (known name rfl)
    rw [listed.unique own, ← ranked_filter, ← ownResults_restricted anyKind inScope]
    exact listsWhole_of_exact (q := { q with collection := collection, kinds := kinds }) plain asked
      inScope

/-- Of three matches in two collections, one is a report of the second. -/
theorem restricted_search_filters_reports :
    let e : Engine := ⟨.default, .off, .default, 50⟩
    let record (id kind name : String) : Record := ⟨"", id, kind,
      ⟨[("core", .mapping [("name", .scalar (.text name))])], rfl⟩, none⟩
    let st := Store.ofCollections (.ofList [("case-1", [record "a" "person" "Ann"]),
      ("case-2", [record "a" "person" "Joann", record "b" "report" "Anna"])])
    let q := Request.ofText "ann"
    let reports := SearchResult.isWithin (some "case-2") ["report"]
    q.fuzzy = false ∧ q.collection = none ∧ q.kinds = [] ∧ "case-2" ∈ st.collectionNames ∧
      ∃ all, e.ListsWhole st q all ∧ all.length = 3 ∧
        e.ListsWhole st { q with collection := some "case-2", kinds := ["report"] }
          (all.filter reports) ∧
        (all.filter reports).map (·.key) = [("case-2", "b")] := by
  intro e record st q reports
  let expr : Query.Expr := .term ⟨none, "ann", false⟩
  have asked : q.expr? = some expr := by decide +kernel
  have known : "case-2" ∈ st.collectionNames := by decide +kernel
  obtain ⟨⟨all, listed⟩, restricts⟩ := restricted_search_filters e st q rfl rfl rfl
  have restricted := restricts all listed (some "case-2") ["report"] (by rintro name ⟨⟩; exact known)
  have whole : st.scope? q.collection = some st.allRecords := rfl
  have own := listed.unique (listsWhole_of_exact (e := e) rfl asked whole)
  have ranking := isRanking_ranked ((e.found q expr st.allRecords).map (e.ownResult q expr))
  rw [← own] at ranking
  refine ⟨rfl, rfl, rfl, known, all, listed, ?_, restricted, ?_⟩
  · rw [ranking.perm.length_eq]
    decide +kernel
  · have keys := (ranking.filter reports).perm.map (·.key)
    have one : ((((e.found q expr st.allRecords).map (e.ownResult q expr)).filter reports).map
        (·.key)) = [("case-2", "b")] := by decide +kernel
    rw [one] at keys
    exact List.perm_singleton.mp keys

end Engine

end Dossier
