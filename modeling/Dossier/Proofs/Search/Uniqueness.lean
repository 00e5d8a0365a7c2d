import Dossier.Proofs.Search.Augmentation
import Dossier.Proofs.Store.Distinct
import Dossier.Store.File
import Mathlib.Data.List.Dedup

/-!
Results that stand for one record. Near misses are merged with the exact matches, which leaves one
result for each record; exact matches that are ranked by themselves are not told apart. So whether a
record is listed once is up to the ids of the store, and these are up to its insertions.
-/

namespace Dossier

/-- Every record is listed once, and the total counts the records. -/
structure ListsOnce (all : List SearchResult) : Prop where
  nodup : (all.map (·.key)).Nodup
  counted : all.length = (all.map (·.key)).dedup.length

theorem listsOnce_iff {all : List SearchResult} : ListsOnce all ↔ (all.map (·.key)).Nodup := by
  constructor
  · exact ListsOnce.nodup
  · intro nodup
    refine ⟨nodup, ?_⟩
    rw [List.dedup_eq_self.mpr nodup, List.length_map]

namespace Engine

variable {e : Engine} {st : Store} {q : Request} {expr : Query.Expr} {scope : List Record}

/-- Merging takes repetitions away; nothing else does. -/
theorem listsOnce_listing_iff :
    ListsOnce (e.listing q expr scope) ↔
      Near.isWanted e.similarity q.fuzzy (e.found q expr scope).length q.limit = true ∨
        (((e.found q expr scope).map (e.ownResult q expr)).map (·.key)).Nodup := by
  rw [listsOnce_iff]
  cases wanted : Near.isWanted e.similarity q.fuzzy (e.found q expr scope).length q.limit with
  | true => exact iff_of_true (onlyAdds_listing wanted).nodup (.inl rfl)
  | false =>
    rw [listing_of_idle wanted]
    have perm := (isRanking_ranked ((e.found q expr scope).map (e.ownResult q expr))).perm
    constructor
    · intro nodup
      exact .inr ((perm.map _).nodup_iff.mp nodup)
    · rintro (busy | nodup)
      · cases busy
      · exact (perm.map _).nodup_iff.mpr nodup

theorem nodup_keys_ownResults (distinct : st.HasDistinctIds)
    (inScope : st.scope? q.collection = some scope) :
    (((e.found q expr scope).map (e.ownResult q expr)).map (·.key)).Nodup := by
  rw [keys_ownResults]
  exact (Store.nodup_keys_scope distinct inScope).sublist (List.filter_sublist.map _)

theorem eq_of_lists {xs ys : List SearchResult} (hx : e.Lists st q xs) (hy : e.Lists st q ys)
    (room : ys.length ≤ q.limit) : xs = ys := by
  have same := Except.ok.inj ((hx 0).symm.trans (hy 0))
  have total : xs.length = ys.length := congrArg Page.total same
  have page : slice xs 0 q.limit = slice ys 0 q.limit := congrArg Page.results same
  rw [slice, slice, List.drop_zero, List.drop_zero, List.take_of_length_le room,
    List.take_of_length_le (total ▸ room)] at page
  exact page

def anything : Query.Expr := .or (.term ⟨none, "a", false⟩) (.not (.term ⟨none, "a", false⟩))

def everything (name : String) (limit : Nat) : Request :=
  { Request.ofText "a OR NOT a" with advanced := true, collection := some name, limit := limit }

theorem expr?_everything (name : String) (limit : Nat) :
    (everything name limit).expr? = some anything := by
  change { Request.ofText "a OR NOT a" with advanced := true }.expr? = _
  decide +kernel

theorem found_anything (e : Engine) (name : String) (limit : Nat) (scope : List Record) :
    e.found (everything name limit) anything scope = scope := by
  refine List.filter_eq_self.mpr fun r _ => ?_
  rw [evaluation, anything, Query.Expr.evaluation_or, Query.Expr.evaluation_not]
  exact Bool.or_not_self _

theorem length_listing_anything (e : Engine) (name : String) (limit : Nat) (scope : List Record) :
    (e.listing (everything name limit) anything scope).length = scope.length := by
  rw [listing_of_exact rfl, (isRanking_ranked _).perm.length_eq, List.length_map, found_anything]

/-- If no list ever repeats a record, the ids are distinct. -/
theorem hasDistinctIds_of_listsOnce
    (once : ∀ q page, e.search st.source q = .ok page → ∃ all, e.Lists st q all ∧ ListsOnce all) :
    st.HasDistinctIds := by
  intro name
  cases inScope : st.collections.find? name with
  | none =>
    rw [Store.held, inScope]
    exact .nil
  | some rs =>
    have held : st.held name = rs := by rw [Store.held, inScope, Option.getD_some]
    have listed := lists_listing (e := e) (expr?_everything name rs.length) inScope
    obtain ⟨all, lists, onceAll⟩ := once _ _ (listed 0)
    have whole := eq_of_lists lists listed
      (Nat.le_of_eq (length_listing_anything e name rs.length rs))
    rw [whole, listsOnce_listing_iff, keys_ownResults, found_anything, ← held] at onceAll
    rcases onceAll with busy | keys
    · cases busy
    · exact Store.nodup_ids_of_keys keys

/-- After any insertions into any store, a list repeats no record just where near misses are looked
for or the exact matches are records of their own. No search repeats a record just if the ids were
distinct and stayed so. -/
theorem listed_once_iff (e : Engine) (st : Store) (batch : List (String × Record)) :
    (∀ q page, e.search (st.insertAll batch).source q = .ok page →
      ∃ primary all, e.primary? (st.insertAll batch) q = some primary ∧
        e.Lists (st.insertAll batch) q all ∧
        (ListsOnce all ↔
          e.searchesNear q primary.length = true ∨ (primary.map (·.key)).Nodup)) ∧
    ((∀ q page, e.search (st.insertAll batch).source q = .ok page →
      ∃ all, e.Lists (st.insertAll batch) q all ∧ ListsOnce all) ↔
        st.HasDistinctIds ∧ st.InsertsNew batch) := by
  refine ⟨?_, ?_⟩
  · intro q page answered
    cases asked : q.expr? with
    | none =>
      refine ⟨[], [], by rw [primary?, asked], lists_of_nothing asked, ?_⟩
      exact iff_of_true ⟨.nil, rfl⟩ (.inr .nil)
    | some expr =>
      obtain ⟨scope, inScope⟩ := exists_scope_of_search asked answered
      refine ⟨_, _, by rw [primary?, asked, inScope]; rfl, lists_listing asked inScope, ?_⟩
      rw [listsOnce_listing_iff, searchesNear, asked, List.length_map]
      rfl
  · rw [← Store.hasDistinctIds_insertAll]
    constructor
    · exact hasDistinctIds_of_listsOnce
    · intro distinct q page answered
      cases asked : q.expr? with
      | none => exact ⟨[], lists_of_nothing asked, .nil, rfl⟩
      | some expr =>
        obtain ⟨scope, inScope⟩ := exists_scope_of_search asked answered
        refine ⟨_, lists_listing asked inScope, listsOnce_listing_iff.mpr (.inr ?_)⟩
        exact nodup_keys_ownResults distinct inScope

/-- A store that is read and grows by new ids never lists a record twice. -/
theorem listed_once_iff_new_ids :
    let e : Engine := ⟨.default, .edit, .default, 50⟩
    let person (id : String) : Record := ⟨"case-1", id, "profile", .empty, none⟩
    let st := Store.empty.insertAll [("case-1", person "a"), ("case-1", person "b")]
    ∀ q page, e.search st.source q = .ok page → ∃ all, e.Lists st q all ∧ ListsOnce all := by
  intro e person st
  refine (listed_once_iff e Store.empty [("case-1", person "a"), ("case-1", person "b")]).2.mpr ?_
  exact ⟨fun name => .nil, by decide, by decide, trivial⟩

/-- An id that is inserted twice is listed twice where near misses are not asked for. -/
theorem record_listed_twice :
    let e : Engine := ⟨.default, .edit, .default, 50⟩
    let ann : Record := ⟨"case-1", "a", "profile",
      ⟨[("core", .mapping [("name", .scalar (.text "Ann"))])], rfl⟩, none⟩
    let q := Request.ofText "ann"
    ∃ st all, Store.ofFile? "\x7b\x7d" = .ok st ∧
      e.Lists (st.insertAll [("case-1", ann), ("case-1", ann)]) q all ∧
      all.map (·.key) = [("case-1", "a"), ("case-1", "a")] ∧ ¬ListsOnce all := by
  intro e ann q
  let expr : Query.Expr := .term ⟨none, "ann", false⟩
  have asked : q.expr? = some expr := by decide +kernel
  have names : (Store.ofFile? "\x7b\x7d").toOption.map (·.collectionNames) = some [] := by
    decide +kernel
  cases read : Store.ofFile? "\x7b\x7d" with
  | error f =>
    rw [read] at names
    cases names
  | ok st =>
    rw [read] at names
    obtain ⟨⟨entries, ordered⟩, addressed, texts⟩ := st
    obtain rfl : entries = [] := List.map_eq_nil_iff.mp (Option.some.inj names)
    have inScope : Store.scope? (Store.insertAll ⟨⟨[], ordered⟩, addressed, texts⟩
        [("case-1", ann), ("case-1", ann)]) q.collection = some [ann, ann] := by
      simp [q, Request.ofText, Store.scope?, Store.insertAll, Store.insert, Dict.update, Dict.find?,
        Dict.insert, insertEntry, lookup?, ann]
    have found : e.found q expr [ann, ann] = [ann, ann] := by
      have matched : (allows q ann && (e.evaluation q expr ann).matched) = true := by
        decide +kernel
      refine List.filter_eq_self.mpr fun r mem => ?_
      rcases List.mem_pair.mp mem with rfl | rfl
      · exact matched
      · exact matched
    have keys : (e.listing q expr [ann, ann]).map (·.key) =
        [("case-1", "a"), ("case-1", "a")] := by
      rw [listing_of_exact rfl, found]
      have perm := (isRanking_ranked ([ann, ann].map (e.ownResult q expr))).perm.map (·.key)
      rw [keys_ownResults] at perm
      change List.Perm _ (List.replicate 2 ("case-1", "a")) at perm
      exact List.perm_replicate.mp perm
    refine ⟨_, _, rfl, lists_listing asked inScope, keys, fun once => ?_⟩
    rw [listsOnce_iff, keys] at once
    exact absurd once (by decide)

end Engine

end Dossier
