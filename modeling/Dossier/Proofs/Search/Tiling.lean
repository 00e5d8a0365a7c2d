import Dossier.Proofs.Search.Augmentation
import Dossier.Proofs.Search.Score
import Mathlib.Data.List.Forall2

/-!
Pages of one request. Whatever the offset, they are cut from the same list, in which scores descend
and, among equal scores, exact matches stand before near misses, each in the order of the records.
Laid side by side the pages give that list back. Offsets and limits are counted down and never
added, so that words of 64 bits serve as well as numbers do. `Engine.aborts` does not read the offset
or the limit: either all pages of a request abort or none does, and these are the pages of one that
does not.
-/

namespace Dossier

section

variable {α : Type}

def dropWord : UInt64 → List α → List α
  | _, [] => []
  | n, x :: rest => if n = 0 then x :: rest else dropWord (n - 1) rest

def takeWord : UInt64 → List α → List α
  | _, [] => []
  | n, x :: rest => if n = 0 then [] else x :: takeWord (n - 1) rest

theorem toNat_eq_succ {n : UInt64} (positive : n ≠ 0) : n.toNat = (n - 1).toNat + 1 := by
  have one : (1 : UInt64).toNat = 1 := rfl
  have above : n.toNat ≠ 0 := fun zero => positive (UInt64.toNat_inj.mp zero)
  have below : (1 : UInt64) ≤ n := by
    rw [UInt64.le_iff_toNat_le]
    omega
  rw [UInt64.toNat_sub_of_le n 1 below]
  omega

theorem dropWord_eq_drop (n : UInt64) (items : List α) : dropWord n items = items.drop n.toNat := by
  induction items generalizing n with
  | nil => simp [dropWord]
  | cons x rest ih =>
    rw [dropWord]
    by_cases zero : n = 0
    · rw [if_pos zero, zero]
      rfl
    · rw [if_neg zero, toNat_eq_succ zero, List.drop_succ_cons, ih]

theorem takeWord_eq_take (n : UInt64) (items : List α) : takeWord n items = items.take n.toNat := by
  induction items generalizing n with
  | nil => simp [takeWord]
  | cons x rest ih =>
    rw [takeWord]
    by_cases zero : n = 0
    · rw [if_pos zero, zero]
      rfl
    · rw [if_neg zero, toNat_eq_succ zero, List.take_succ_cons, ih]

theorem length_slice (items : List α) (offset limit : Nat) :
    (slice items offset limit).length = min limit (items.length - offset) := by
  rw [slice, List.length_take, List.length_drop]

theorem slice_of_length_le {items : List α} {offset : Nat} (past : items.length ≤ offset)
    (limit : Nat) : slice items offset limit = [] := by
  rw [slice, List.drop_eq_nil_of_le past, List.take_nil]

theorem flatMap_slice (items : List α) (limit n : Nat) :
    ((List.range n).flatMap fun k => slice items (k * limit) limit) = items.take (n * limit) := by
  induction n with
  | zero => rw [Nat.zero_mul, List.take_zero, List.range_zero, List.flatMap_nil]
  | succ n ih =>
    rw [List.range_succ, List.flatMap_append, ih, List.flatMap_singleton, Nat.succ_mul,
      List.take_add, slice]

theorem sublistForall₂_filterMap {β γ : Type} {stands : γ → β → Prop} {f : α → Option γ}
    {g : α → β} {items : List α} (each : ∀ x ∈ items, ∀ y, f x = some y → stands y (g x)) :
    List.SublistForall₂ stands (items.filterMap f) (items.map g) := by
  induction items with
  | nil => exact .nil
  | cons x rest ih =>
    obtain ⟨first, later⟩ := List.forall_mem_cons.mp each
    rw [List.map_cons]
    cases found : f x with
    | none =>
      rw [List.filterMap_cons_none found]
      exact .cons_right (ih later)
    | some y =>
      rw [List.filterMap_cons_some found]
      exact .cons (first y found) (ih later)

theorem sublistForall₂_of_sublist {β γ : Type} {stands : γ → β → Prop} {xs ys : List γ}
    {zs : List β} (sub : xs.Sublist ys) (h : List.SublistForall₂ stands ys zs) :
    List.SublistForall₂ stands xs zs := by
  induction h generalizing xs with
  | nil =>
    rw [List.sublist_nil.mp sub]
    exact .nil
  | cons holds _ ih =>
    cases sub with
    | cons _ sub => exact .cons_right (ih sub)
    | cons_cons _ sub => exact .cons holds (ih sub)
  | cons_right _ ih => exact .cons_right (ih sub)

end

namespace Engine

/-- The pages of a request, at its limit, are cut from the list and give it back. -/
structure Tiles (e : Engine) (st : Store) (q : Request) (all : List SearchResult) : Prop where
  total : ∀ offset, ∃ page,
    e.search st.source { q with offset := offset } = .ok page ∧ page.total = all.length
  full : ∀ k page, (k + 1) * q.limit ≤ all.length →
    e.search st.source { q with offset := k * q.limit } = .ok page →
      page.results.length = q.limit
  joined : ∀ n (pages : Nat → Page), all.length ≤ n * q.limit →
    (∀ k < n, e.search st.source { q with offset := k * q.limit } = .ok (pages k)) →
      ((List.range n).flatMap fun k => (pages k).results) = all
  past : ∀ offset, all.length ≤ offset →
    e.search st.source { q with offset := offset } = .ok ⟨all.length, []⟩
  counted : ∀ offset limit : UInt64, q.limit = limit.toNat →
    e.search st.source { q with offset := offset.toNat } =
      .ok ⟨all.length, takeWord limit (dropWord offset all)⟩

variable {e : Engine} {st : Store} {q : Request} {all : List SearchResult}

theorem tiles_of_lists (listed : e.Lists st q all) : e.Tiles st q all where
  total offset := ⟨_, listed offset, rfl⟩
  full k page inside answered := by
    rw [listed (k * q.limit)] at answered
    cases answered
    rw [length_slice]
    rw [Nat.succ_mul] at inside
    omega
  joined n pages covered answered := by
    have cut : ∀ k ∈ List.range n, (pages k).results = slice all (k * q.limit) q.limit := by
      intro k mem
      have page := answered k (List.mem_range.mp mem)
      rw [listed (k * q.limit)] at page
      exact congrArg Page.results (Except.ok.inj page).symm
    rw [List.flatMap_def, List.map_congr_left cut, ← List.flatMap_def, flatMap_slice,
      List.take_of_length_le covered]
  past offset beyond := by
    rw [listed offset, slice_of_length_le beyond]
  counted offset limit asked := by
    rw [listed offset.toNat, dropWord_eq_drop, takeWord_eq_take, slice, asked]

/-- What is ranked are the exact matches and after them the near misses, both in the order of the
records. If near misses are looked for, one exact match stays for each record that has any. -/
def RanksInOrder (e : Engine) (q : Request) (records : List Record)
    (primary all : List SearchResult) : Prop :=
  ∃ own near, own.Sublist primary ∧ (∀ r ∈ primary, r.key ∈ own.map (·.key)) ∧
    (e.searchesNear q primary.length = false → own = primary ∧ near = []) ∧
    List.SublistForall₂ (fun s r => e.IsNearMiss q r s) near records ∧ IsRanking (own ++ near) all

theorem nearResults_in_order (e : Engine) (q : Request) (text : String) (records : List Record)
    (results : List SearchResult) :
    List.SublistForall₂ (fun s r => e.IsNearMiss q r s)
      (e.nearResults q text records results) records := by
  rw [nearResults, Near.hits_eq_filterMap]
  split
  · exact .nil
  · rw [List.filterMap_filterMap]
    have inOrder : List.SublistForall₂ (fun s r => e.IsNearMiss q r s)
        (records.zipIdx.filterMap fun c =>
          (Near.hitAt? e.similarity e.policy (Near.core text) (results.map (·.key)) (e.fieldsOf q)
            c).bind fun h => records[h.index]?.map fun r => e.nearResult q.highlight r h)
        (records.zipIdx.map (·.1)) := by
      refine sublistForall₂_filterMap fun c mem s made => ?_
      obtain ⟨h, hit, made⟩ := Option.bind_eq_some_iff.mp made
      obtain ⟨_, b, _, accepted, here, _, _⟩ := Near.hitAt?_eq_some_iff.mp hit
      rw [here, List.mem_zipIdx_iff_getElem?.mp mem, Option.map_some, Option.some.injEq] at made
      exact ⟨h, b.similarity, accepted, made.symm⟩
    rw [List.zipIdx_map_fst] at inOrder
    exact inOrder

variable {expr : Query.Expr} {scope : List Record}

theorem ranksInOrder_listing (asked : q.expr? = some expr) (scope : List Record) :
    e.RanksInOrder q (scope.filter (allows q)) ((e.found q expr scope).map (e.ownResult q expr))
      (e.listing q expr scope) := by
  have ranking := isRanking_listing e q expr scope
  rw [withNear_eq] at ranking
  split at ranking
  · rename_i wanted
    obtain ⟨near, sub, merged⟩ := SearchResult.exists_mergeUnique_eq_append
      ((e.found q expr scope).map (e.ownResult q expr))
      (e.nearResults q q.nearText (scope.filter (allows q))
        ((e.found q expr scope).map (e.ownResult q expr)))
    rw [merged] at ranking
    refine ⟨_, near, SearchResult.firstPerKey_sublist [] _,
      fun r mem => SearchResult.key_mem_firstPerKey List.not_mem_nil mem, fun idle => ?_,
      sublistForall₂_of_sublist sub (nearResults_in_order e q _ _ _), ranking⟩
    rw [searchesNear, asked, wanted] at idle
    cases idle
  · rw [← List.append_nil (List.map _ _)] at ranking
    exact ⟨_, [], List.Sublist.refl _, fun r mem => List.mem_map_of_mem mem, fun _ => ⟨rfl, rfl⟩,
      .nil, ranking⟩

theorem score_isNaN_of_mem_listing {s : SearchResult} (mem : s ∈ e.listing q expr scope) :
    s.score.isNaN = false := by
  rcases origin_of_mem_listing mem with ⟨r, _, rfl⟩ | ⟨_, r, _, _, h, x, accepted, rfl⟩
  · exact Grade.score_isNaN _
  · exact Score.isNaN_of_le (Near.Policy.least_le_of_score? accepted)

theorem pairwise_score_listing (e : Engine) (q : Request) (expr : Query.Expr)
    (scope : List Record) :
    (e.listing q expr scope).Pairwise fun a b => b.score ≤ a.score := by
  refine List.Pairwise.imp_of_mem ?_ (isRanking_listing e q expr scope).descending
  intro a b ha hb le
  exact Score.le_of_orderKey_le (score_isNaN_of_mem_listing hb) (score_isNaN_of_mem_listing ha) le

/-- Unless a search fails for an unknown collection, its pages are cut from one list that is ranked
by score and, among equal scores, in the order of the records. -/
theorem pages_tile_ranking (e : Engine) (st : Store) (q : Request)
    (known : ∀ name, e.search st.source q ≠ .error (.store (.collectionNotFound name))) :
    ∃ primary all, e.primary? st q = some primary ∧ e.Tiles st q all ∧
      all.Pairwise (fun a b => b.score ≤ a.score) ∧
      e.RanksInOrder q (((st.scope? q.collection).getD []).filter (allows q)) primary all := by
  cases asked : q.expr? with
  | none =>
    refine ⟨[], [], by rw [primary?, asked], tiles_of_lists (lists_of_nothing asked), .nil, ?_⟩
    refine ⟨[], [], .slnil, fun _ mem => absurd mem List.not_mem_nil, fun _ => ⟨rfl, rfl⟩, .nil, ?_⟩
    exact ⟨.refl [], .nil, fun _ => rfl⟩
  | some expr =>
    cases inScope : st.scope? q.collection with
    | none =>
      cases named : q.collection with
      | none =>
        rw [named] at inScope
        cases inScope
      | some name =>
        rw [named] at inScope
        exact absurd (search_of_unknown asked named inScope) (known name)
    | some scope =>
      have tiles := tiles_of_lists (lists_listing (e := e) asked inScope)
      exact ⟨_, _, by rw [primary?, asked, inScope]; rfl, tiles,
        pairwise_score_listing e q expr scope, ranksInOrder_listing asked scope⟩

/-- One match and two near misses make two pages of two. -/
theorem pages_tile_ranking_two_pages :
    let e : Engine := ⟨.default, .edit, .default, 50⟩
    let person (id name : String) : Record := ⟨"people", id, "profile",
      ⟨[("core", .mapping [("name", .scalar (.text name))])], rfl⟩, none⟩
    let people := [person "1" "Jon", person "2" "John", person "3" "Johan"]
    let st := Store.ofCollections (.ofList [("people", people)])
    let q := { Request.ofText "john" with fuzzy := true, limit := 2 }
    (∀ name, e.search st.source q ≠ .error (.store (.collectionNotFound name))) ∧
      ∃ primary all, e.primary? st q = some primary ∧ e.Tiles st q all ∧
        all.Pairwise (fun a b => b.score ≤ a.score) ∧ e.RanksInOrder q people primary all ∧
        primary.map (·.id) = ["2"] ∧ all.length = 3 ∧ (slice all 2 2).length = 1 := by
  intro e person people st q
  let expr : Query.Expr := .term ⟨none, "john", false⟩
  have asked : q.expr? = some expr := by decide +kernel
  have inScope : st.scope? q.collection = some people := rfl
  have answered := search_of_scope (e := e) asked inScope
  have known : ∀ name, e.search st.source q ≠ .error (.store (.collectionNotFound name)) := by
    intro name failed
    rw [answered] at failed
    cases failed
  refine ⟨known, ?_⟩
  obtain ⟨primary, all, matched, tiles, descending, inOrder⟩ := pages_tile_ranking e st q known
  rw [inScope] at inOrder
  have own : primary = (e.found q expr people).map (e.ownResult q expr) := by
    rw [primary?, asked, inScope] at matched
    exact (Option.some.inj matched).symm
  have total : all.length = 3 := by
    obtain ⟨page, first, counted⟩ := tiles.total q.offset
    have same : page = _ := Except.ok.inj (first.symm.trans answered)
    rw [← counted, same, (perm_listing e q expr people).length_eq]
    decide +kernel
  subst own
  refine ⟨_, all, matched, tiles, descending, inOrder, by decide +kernel, total, ?_⟩
  rw [length_slice, total]
  rfl

end Engine

end Dossier
