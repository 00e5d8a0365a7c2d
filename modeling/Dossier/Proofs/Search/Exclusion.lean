import Dossier.Proofs.Search.NearMiss

/-!
What a required negation keeps out of an answer. No record that a search finds meets what is
negated; near misses go by the text alone, and may bring such a record back.
-/

namespace Dossier

namespace Query.Expr

/-- Whatever the whole is true of, the part is true of as well: one leads to the other through
conjunctions and groups. -/
inductive Requires : Expr → Expr → Prop
  | self (e : Expr) : Requires e e
  | group {e part : Expr} : Requires e part → Requires (.group e) part
  | left {e part : Expr} (f : Expr) : Requires e part → Requires (.and e f) part
  | right {f part : Expr} (e : Expr) : Requires f part → Requires (.and e f) part

theorem Requires.matched {e part : Expr} (h : e.Requires part) {t : Target} {s : Setting}
    (whole : (e.evaluation t s).matched = true) : (part.evaluation t s).matched = true := by
  induction h with
  | self e => exact whole
  | group _ ih => exact ih whole
  | left f _ ih =>
    rw [evaluation_and, Evaluation.and, Bool.and_eq_true] at whole
    exact ih whole.1
  | right e _ ih =>
    rw [evaluation_and, Evaluation.and, Bool.and_eq_true] at whole
    exact ih whole.2

end Query.Expr

namespace Engine

variable {e : Engine} {st : Store} {q : Request} {expr x : Query.Expr} {page : Page}

theorem unmatched_of_mem_found {scope : List Record} {r : Record} (required : expr.Requires (.not x))
    (found : r ∈ e.found q expr scope) : (e.evaluation q x r).matched = false := by
  have allowed := (List.mem_filter.mp found).2
  rw [Bool.and_eq_true] at allowed
  have negated : ((Query.Expr.not x).evaluation (.record r) (e.settingOf q)).matched = true :=
    required.matched allowed.2
  rw [Query.Expr.evaluation_not, Evaluation.not, Bool.not_eq_true'] at negated
  exact negated

theorem mem_listing_of_mem_page {scope : List Record} {s : SearchResult}
    (asked : q.expr? = some expr) (inScope : st.scope? q.collection = some scope)
    (answered : e.search st.source q = .ok page) (mem : s ∈ page.results) :
    s ∈ e.listing q expr scope := by
  rw [search_of_scope asked inScope] at answered
  cases answered
  exact List.mem_of_mem_drop (List.mem_of_mem_take mem)

/-- Every result on a page is the own result of a record that does not meet what is negated, unless
near misses are looked for and it stands for one of them. -/
theorem required_negation_excludes (asked : q.expr? = some expr)
    (required : expr.Requires (.not x)) (answered : e.search st.source q = .ok page) :
    ∃ scope, st.scope? q.collection = some scope ∧ ∀ s ∈ page.results,
      (∃ r ∈ scope, s = e.ownResult q expr r ∧ (e.evaluation q x r).matched = false) ∨
        e.LooksNear q (e.found q expr scope).length ∧
          ∃ r ∈ scope, r.key ∉ (e.found q expr scope).map (·.key) ∧ e.IsNearMiss q r s := by
  obtain ⟨scope, inScope⟩ := exists_scope_of_search asked answered
  refine ⟨scope, inScope, fun s mem => ?_⟩
  rcases origin_of_mem_listing (mem_listing_of_mem_page asked inScope answered mem) with
    ⟨r, found, rfl⟩ | near
  · exact .inl ⟨r, (List.mem_filter.mp found).1, rfl, unmatched_of_mem_found required found⟩
  · exact .inr near

/-- A query that is all negation leaves no text for near misses, and nothing excluded comes back. -/
theorem required_negation_excludes_archived :
    let e : Engine := ⟨.default, .edit, .default, 50⟩
    let person (id status : String) : Record := ⟨"people", id, "profile",
      ⟨[("tags", .mapping [("status", .scalar (.text status))])], rfl⟩, none⟩
    let st := Store.ofCollections
      (.ofList [("people", [person "1" "active", person "2" "archived"])])
    let q : Request := { Request.ofText "NOT status:archived" with fuzzy := true, advanced := true }
    let archived : Query.Expr := .term ⟨some "status", "archived", false⟩
    q.expr? = some (.not archived) ∧ (Query.Expr.not archived).Requires (.not archived) ∧
      ∃ page scope, e.search st.source q = .ok page ∧ st.scope? q.collection = some scope ∧
        ∀ s ∈ page.results, ∃ r ∈ scope,
          s = e.ownResult q (.not archived) r ∧ (e.evaluation q archived r).matched = false := by
  intro e person st q archived
  have asked : q.expr? = some (.not archived) := by decide +kernel
  have answered : e.search st.source q = .ok _ := search_of_scope asked rfl
  obtain ⟨scope, inScope, origin⟩ := required_negation_excludes asked (.self _) answered
  have silent : Near.core q.nearText = "" := by decide +kernel
  refine ⟨asked, .self _, _, scope, answered, inScope, fun s mem => ?_⟩
  rcases origin s mem with own | ⟨near, _⟩
  · exact own
  · exact absurd silent near.2

/-- A record that a query excludes comes back as a near miss of the rest of the query. -/
theorem excluded_record_comes_back :
    let e : Engine := ⟨.default, .edit, .default, 50⟩
    let ann : Record := ⟨"people", "1", "profile",
      ⟨[("core", .mapping [("name", .scalar (.text "Ann"))]),
        ("tags", .mapping [("category", .scalar (.text "suspect")),
          ("status", .scalar (.text "active"))])], by decide⟩, none⟩
    let ben : Record := ⟨"people", "2", "profile",
      ⟨[("core", .mapping [("name", .scalar (.text "Ben"))]),
        ("tags", .mapping [("category", .scalar (.text "contact")),
          ("status", .scalar (.text "active"))])], by decide⟩, none⟩
    let st := Store.ofCollections (.ofList [("people", [ann, ben])])
    let q : Request := { Request.ofText "tags.status:active AND NOT tags.category:suspect" with
      fuzzy := true, advanced := true }
    let suspect : Query.Expr := .term ⟨some "tags.category", "suspect", false⟩
    ∃ expr page, q.expr? = some expr ∧ expr.Requires (.not suspect) ∧
      e.search st.source q = .ok page ∧ ∃ s ∈ page.results, s.key = ann.key ∧
        ∀ r ∈ st.allRecords, r.key = ann.key → (e.evaluation q suspect r).matched = true := by
  intro e ann ben st q suspect
  let active : Query.Expr := .term ⟨some "tags.status", "active", false⟩
  have asked : q.expr? = some (.and active (.not suspect)) := by decide +kernel
  have inScope : st.scope? q.collection = some [ann, ben] := rfl
  have keys : (e.withNear q q.nearText ([ann, ben].filter (allows q))
      ((e.found q (.and active (.not suspect)) [ann, ben]).map
        (e.ownResult q (.and active (.not suspect))))).map (·.key) = [ben.key, ann.key] := by
    decide +kernel
  have listed := (perm_listing e q (.and active (.not suspect)) [ann, ben]).map (·.key)
  rw [keys] at listed
  have short : (e.listing q (.and active (.not suspect)) [ann, ben]).length ≤ 20 := by
    have two := listed.length_eq
    rw [List.length_map] at two
    rw [two]
    decide
  have back : ann.key ∈ (e.listing q (.and active (.not suspect)) [ann, ben]).map (·.key) :=
    listed.mem_iff.mpr (by decide)
  obtain ⟨s, mem, key⟩ := List.mem_map.mp back
  refine ⟨_, _, asked, .right _ (.self _), search_of_scope asked inScope, s, ?_, key, ?_⟩
  · rw [← List.take_of_length_le short] at mem
    exact mem
  · intro r mem same
    have : r = ann ∨ r = ben := by simpa using (show r ∈ [ann, ben] from mem)
    rcases this with rfl | rfl
    · decide +kernel
    · exact absurd same (by decide)

end Engine

end Dossier
