import Dossier.Proofs.Search.NearMiss

/-!
Asking for near misses only adds. The exact matches of a request stay as they are, one for each
record, and whatever is listed besides them stands for a record that had no match. Near misses are
looked for after the exact matches are evaluated, so either search aborts just if the other does
(`Engine.aborts` does not read `fuzzy`); the statement is about searches that do not.
-/

namespace Dossier

/-- A list holds the first exact match of every record that has one, and near misses besides. -/
structure OnlyAdds (policy : Near.Policy) (primary all : List SearchResult) : Prop where
  nodup : (all.map (·.key)).Nodup
  kept : ∀ r ∈ primary, r.key ∈ all.map (·.key)
  unchanged : ∀ r ∈ all, r.key ∈ primary.map (·.key) → primary.find? (·.key = r.key) = some r
  added : ∀ r ∈ all, r.key ∉ primary.map (·.key) →
    (∃ path, r.matchedFields = [path]) ∧ ∃ x, policy.score? x = some r.score

theorem OnlyAdds.perm {policy : Near.Policy} {primary all ranked : List SearchResult}
    (h : OnlyAdds policy primary all) (perm : ranked.Perm all) :
    OnlyAdds policy primary ranked where
  nodup := (perm.map _).nodup_iff.mpr h.nodup
  kept r mem := (perm.map _).mem_iff.mpr (h.kept r mem)
  unchanged r mem := h.unchanged r (perm.mem_iff.mp mem)
  added r mem := h.added r (perm.mem_iff.mp mem)

theorem onlyAdds_mergeUnique {policy : Near.Policy} {primary secondary : List SearchResult}
    (near : ∀ r ∈ secondary,
      (∃ path, r.matchedFields = [path]) ∧ ∃ x, policy.score? x = some r.score) :
    OnlyAdds policy primary (SearchResult.mergeUnique primary secondary) where
  nodup := SearchResult.nodup_keys_mergeUnique primary secondary
  kept _ mem :=
    SearchResult.key_mem_firstPerKey List.not_mem_nil (List.mem_append_left secondary mem)
  unchanged := by
    intro r mem known
    rcases SearchResult.mem_mergeUnique_iff.mp mem with first | ⟨new, _⟩
    · exact first
    · exact absurd known new
  added := by
    intro r mem new
    rcases SearchResult.mem_of_mem_mergeUnique mem with mem | mem
    · exact absurd (List.mem_map_of_mem mem) new
    · exact near r mem

namespace Engine

def primary? (e : Engine) (st : Store) (q : Request) : Option (List SearchResult) :=
  match q.expr? with
  | none => some []
  | some expr =>
    (st.scope? q.collection).map fun scope => (e.found q expr scope).map (e.ownResult q expr)

/-- There is something to search for, and near misses are wanted besides that many exact matches. -/
def searchesNear (e : Engine) (q : Request) (found : Nat) : Bool :=
  q.expr?.isSome && Near.isWanted e.similarity q.fuzzy found q.limit

/-- All pages of a request, at its limit, are cut from one list. -/
def Lists (e : Engine) (st : Store) (q : Request) (all : List SearchResult) : Prop :=
  ∀ offset, e.search st.source { q with offset := offset } =
    .ok ⟨all.length, slice all offset q.limit⟩

variable {e : Engine} {st : Store} {q : Request} {expr : Query.Expr} {scope : List Record}

theorem lists_of_nothing (h : q.expr? = none) : e.Lists st q [] := by
  intro offset
  have blank : e.search st.source { q with offset := offset } = .ok .empty :=
    search_of_nothing st.source h
  rw [blank]
  simp [Page.empty, slice]

theorem lists_listing (asked : q.expr? = some expr)
    (inScope : st.scope? q.collection = some scope) : e.Lists st q (e.listing q expr scope) :=
  fun offset => search_of_scope (q := { q with offset := offset }) asked inScope

theorem onlyAdds_listing
    (wanted : Near.isWanted e.similarity q.fuzzy (e.found q expr scope).length q.limit = true) :
    OnlyAdds e.policy ((e.found q expr scope).map (e.ownResult q expr))
      (e.listing q expr scope) := by
  refine OnlyAdds.perm ?_ (perm_listing e q expr scope)
  rw [withNear_eq, if_pos (by rwa [List.length_map])]
  refine onlyAdds_mergeUnique fun s mem => ?_
  obtain ⟨_, r, _, _, h, x, accepted, rfl⟩ := mem_nearResults mem
  exact ⟨⟨h.path, rfl⟩, x, accepted⟩

/-- Where a search succeeds, it ranks the exact matches if near misses are not asked for or not
looked for; if they are, it lists the exact matches unchanged and adds to them. -/
theorem near_misses_only_add (e : Engine) (st : Store) (q : Request)
    (succeeds : ∃ page, e.search st.source { q with fuzzy := true } = .ok page) :
    ∃ primary all, e.primary? st q = some primary ∧
      e.Lists st { q with fuzzy := false } (SearchResult.ranked primary) ∧
      e.Lists st { q with fuzzy := true } all ∧
      (e.searchesNear { q with fuzzy := true } primary.length = false → IsRanking primary all) ∧
      (e.searchesNear { q with fuzzy := true } primary.length = true →
        OnlyAdds e.policy primary all) := by
  cases asked : q.expr? with
  | none =>
    have idle : e.searchesNear { q with fuzzy := true } 0 = false := by
      change (q.expr?.isSome && _) = false
      rw [asked, Option.isSome_none, Bool.false_and]
    have nothing (fuzzy : Bool) : e.Lists st { q with fuzzy := fuzzy } (SearchResult.ranked []) := by
      rw [SearchResult.ranked, List.mergeSort_nil]
      exact lists_of_nothing (q := { q with fuzzy := fuzzy }) asked
    refine ⟨[], _, by rw [primary?, asked], nothing false, nothing true,
      fun _ => isRanking_ranked [], fun busy => ?_⟩
    rw [List.length_nil, idle] at busy
    cases busy
  | some expr =>
    obtain ⟨page, answered⟩ := succeeds
    obtain ⟨scope, inScope⟩ :=
      exists_scope_of_search (q := { q with fuzzy := true }) asked answered
    have plain := lists_listing (e := e) (q := { q with fuzzy := false }) asked inScope
    have near := lists_listing (e := e) (q := { q with fuzzy := true }) asked inScope
    rw [listing_of_exact rfl] at plain
    refine ⟨_, _, by rw [primary?, asked, inScope]; rfl, plain, near, ?_⟩
    have searches (found : Nat) : e.searchesNear { q with fuzzy := true } found =
        Near.isWanted e.similarity true found q.limit := by
      change (q.expr?.isSome && _) = _
      rw [asked, Option.isSome_some, Bool.true_and]
    rw [searches, List.length_map]
    constructor
    · intro idle
      rw [listing_of_idle (q := { q with fuzzy := true }) idle]
      exact isRanking_ranked _
    · intro wanted
      exact onlyAdds_listing (q := { q with fuzzy := true }) wanted

/-- A name that is one letter away is added to the match, at its lower score. -/
theorem near_misses_only_add_one_letter :
    let e : Engine := ⟨.default, .edit, .default, 50⟩
    let person (id name : String) : Record := ⟨"people", id, "profile",
      ⟨[("core", .mapping [("name", .scalar (.text name))])], rfl⟩, none⟩
    let st := Store.ofCollections (.ofList [("people", [person "1" "Jon", person "2" "John"])])
    let q := Request.ofText "john"
    (∃ page, e.search st.source { q with fuzzy := true } = .ok page) ∧
      ∃ primary all, e.primary? st q = some primary ∧ e.Lists st { q with fuzzy := true } all ∧
        OnlyAdds e.policy primary all ∧ primary.map (·.id) = ["2"] ∧ all.length = 2 := by
  intro e person st q
  let expr : Query.Expr := .term ⟨none, "john", false⟩
  have asked : q.expr? = some expr := by decide +kernel
  have inScope : st.scope? q.collection = some [person "1" "Jon", person "2" "John"] := rfl
  have succeeds : ∃ page, e.search st.source { q with fuzzy := true } = .ok page :=
    ⟨_, search_of_scope (q := { q with fuzzy := true }) asked inScope⟩
  refine ⟨succeeds, ?_⟩
  obtain ⟨primary, all, matched, _, listed, _, adds⟩ := near_misses_only_add e st q succeeds
  have own : primary = (e.found q expr [person "1" "Jon", person "2" "John"]).map
      (e.ownResult q expr) := by
    rw [primary?, asked, inScope] at matched
    exact (Option.some.inj matched).symm
  subst own
  have page := search_of_scope (e := e) (q := { q with fuzzy := true }) asked inScope
  have total : all.length =
      (e.listing { q with fuzzy := true } expr [person "1" "Jon", person "2" "John"]).length :=
    congrArg Page.total (Except.ok.inj ((listed 0).symm.trans page))
  refine ⟨_, all, matched, listed, adds (by decide +kernel), by decide +kernel, ?_⟩
  rw [total, (perm_listing e _ expr _).length_eq]
  decide +kernel

end Engine

end Dossier
