import Dossier.Proofs.Match.Highlight
import Dossier.Proofs.Search.NearMiss
import Dossier.Proofs.Search.Within

/-!
What a result says of its hits. The fields that it names are the paths of the hits, each once, and
under each of them stands all that the hits there have highlighted, in order. That no field goes
without a highlight is due to the snippets: whatever matches has one.
-/

namespace Dossier

def highlightsAt (hits : List Hit) (path : String) : List String :=
  (hits.filter (·.path = path)).flatMap (·.highlights)

def showHit (d : Dict (List String)) (h : Hit) : Dict (List String) :=
  if h.highlights.isEmpty then d else d.update h.path [] (· ++ h.highlights)

def nameHit (paths : List String) (h : Hit) : List String :=
  if paths.contains h.path then paths else paths ++ [h.path]

theorem nodup_foldl_nameHit (hits : List Hit) {paths : List String} (nodup : paths.Nodup) :
    (hits.foldl nameHit paths).Nodup := by
  induction hits generalizing paths with
  | nil => exact nodup
  | cons h rest ih =>
    apply ih
    rw [nameHit]
    split
    · exact nodup
    · rename_i new
      rw [List.contains_iff_mem] at new
      apply List.nodup_append.mpr
      refine ⟨nodup, List.pairwise_singleton _ _, ?_⟩
      intro path known other here same
      rw [List.mem_singleton] at here
      exact new (here ▸ same ▸ known)

theorem mem_foldl_nameHit {hits : List Hit} {paths : List String} {path : String} :
    path ∈ hits.foldl nameHit paths ↔ path ∈ paths ∨ ∃ h ∈ hits, h.path = path := by
  induction hits generalizing paths with
  | nil => simp
  | cons h rest ih =>
    have first : path ∈ nameHit paths h ↔ path ∈ paths ∨ h.path = path := by
      rw [nameHit]
      split
      · rename_i known
        rw [List.contains_iff_mem] at known
        exact (or_iff_left_of_imp fun same => same ▸ known).symm
      · rw [List.mem_append, List.mem_singleton, eq_comm]
    rw [List.foldl_cons, ih, first, or_assoc, List.exists_mem_cons_iff]

theorem find?_showHit (d : Dict (List String)) (h : Hit) (path : String) :
    ((showHit d h).find? path).getD [] =
      (d.find? path).getD [] ++ if h.path = path then h.highlights else [] := by
  rw [showHit]
  by_cases silent : h.highlights.isEmpty = true
  · rw [if_pos silent, List.isEmpty_iff.mp silent, ite_self, List.append_nil]
  · rw [if_neg silent, Dict.update, Dict.find?_insert]
    by_cases here : h.path = path
    · rw [if_pos here, if_pos here, here, Option.getD_some]
    · rw [if_neg here, if_neg here, List.append_nil]

theorem find?_foldl_showHit (hits : List Hit) (d : Dict (List String)) (path : String) :
    ((hits.foldl showHit d).find? path).getD [] =
      (d.find? path).getD [] ++ highlightsAt hits path := by
  induction hits generalizing d with
  | nil => exact (List.append_nil _).symm
  | cons h rest ih =>
    rw [List.foldl_cons, ih, find?_showHit, List.append_assoc, highlightsAt, highlightsAt,
      List.filter_cons]
    by_cases here : h.path = path
    · simp [here]
    · simp [here]

theorem mem_keys_foldl_showHit {hits : List Hit} {d : Dict (List String)} {path : String} :
    path ∈ (hits.foldl showHit d).keys ↔
      path ∈ d.keys ∨ ∃ h ∈ hits, h.highlights ≠ [] ∧ h.path = path := by
  induction hits generalizing d with
  | nil => simp
  | cons h rest ih =>
    have first : path ∈ (showHit d h).keys ↔
        path ∈ d.keys ∨ h.highlights ≠ [] ∧ h.path = path := by
      rw [showHit]
      by_cases silent : h.highlights = []
      · simp [silent]
      · rw [if_neg (by simpa using silent), Dict.update, Dict.mem_keys_insert, or_comm]
        simp [silent]
    rw [List.foldl_cons, ih, first, or_assoc, List.exists_mem_cons_iff]

/-- The fields and the highlights of a result are those of the hits: each path is named once, and
the highlights under it are all that the hits there have, of which there are some. -/
structure SearchResult.Reports (s : SearchResult) (hits : List Hit) : Prop where
  nodup : s.matchedFields.Nodup
  named : ∀ path, path ∈ s.matchedFields ↔ ∃ h ∈ hits, h.path = path
  keys : ∀ path, path ∈ s.highlights.keys ↔ path ∈ s.matchedFields
  listed : ∀ path ∈ s.matchedFields, s.highlights.find? path = some (highlightsAt hits path)
  filled : ∀ path snippets, s.highlights.find? path = some snippets → snippets ≠ []

namespace Engine

variable {e : Engine} {r : Record} {v : Evaluation}

theorem mem_matchedFields_resultOf {path : String} :
    path ∈ (e.resultOf r v).matchedFields ↔ ∃ h ∈ v.hits, h.path = path := by
  have fields : path ∈ v.hits.foldl nameHit [] ↔ path ∈ [] ∨ ∃ h ∈ v.hits, h.path = path :=
    mem_foldl_nameHit
  rwa [or_iff_right List.not_mem_nil] at fields

theorem nodup_matchedFields_resultOf : (e.resultOf r v).matchedFields.Nodup :=
  nodup_foldl_nameHit v.hits List.nodup_nil

theorem reports_resultOf (e : Engine) (r : Record) (shown : ∀ h ∈ v.hits, h.highlights ≠ []) :
    (e.resultOf r v).Reports v.hits := by
  have keys (path : String) : path ∈ (e.resultOf r v).highlights.keys ↔
      ∃ h ∈ v.hits, h.path = path := by
    have keyed : path ∈ (v.hits.foldl showHit .empty).keys ↔
        path ∈ Dict.empty.keys ∨ ∃ h ∈ v.hits, h.highlights ≠ [] ∧ h.path = path :=
      mem_keys_foldl_showHit
    have unkeyed : path ∉ (Dict.empty : Dict (List String)).keys := List.not_mem_nil
    rw [or_iff_right unkeyed] at keyed
    refine keyed.trans ⟨?_, ?_⟩
    · rintro ⟨h, mem, -, here⟩
      exact ⟨h, mem, here⟩
    · rintro ⟨h, mem, here⟩
      exact ⟨h, mem, shown h mem, here⟩
  have listed (path : String) (snippets : List String)
      (found : (e.resultOf r v).highlights.find? path = some snippets) :
      snippets = highlightsAt v.hits path := by
    have all : ((e.resultOf r v).highlights.find? path).getD [] = _ :=
      find?_foldl_showHit v.hits .empty path
    rw [found] at all
    exact all
  constructor
  · exact nodup_matchedFields_resultOf
  · exact fun path => mem_matchedFields_resultOf
  · intro path
    rw [keys, mem_matchedFields_resultOf]
  · intro path field
    rw [mem_matchedFields_resultOf, ← keys, Dict.mem_keys_iff] at field
    obtain ⟨snippets, found⟩ := field
    rw [found, listed path snippets found]
  · intro path snippets found
    obtain ⟨h, mem, here⟩ := (keys path).mp (Dict.mem_keys_iff.mpr ⟨snippets, found⟩)
    rw [listed path snippets found]
    intro none
    have silent := List.flatMap_eq_nil_iff.mp none h
      (List.mem_filter.mpr ⟨mem, decide_eq_true here⟩)
    exact shown h mem silent

/-- A near miss as a hit: it has its text for its only highlight. -/
def hitOfNear (e : Engine) (h : Near.Hit) : Hit :=
  ⟨h.path, [String.ofList (Snippet.approximate h.value.toList e.context)]⟩

theorem reports_nearResult (e : Engine) (r : Record) (h : Near.Hit) :
    (e.nearResult true r h).Reports [e.hitOfNear h] := by
  -- The result is made as one with this hit alone would be, its score apart.
  have made : (e.resultOf r ⟨true, .miss, [e.hitOfNear h]⟩).Reports [e.hitOfNear h] := by
    apply reports_resultOf
    intro hit mem
    rw [List.mem_singleton.mp mem]
    exact List.cons_ne_nil _ _
  exact ⟨made.nodup, made.named, made.keys, made.listed, made.filled⟩

end Engine

/-- Every snippet of what is read ends at a position of 64 bits. -/
structure Source.Fits (s : Source) (context : Nat) : Prop where
  candidates : ∀ collection text records, s.candidates collection text = .ok records →
    ∀ r ∈ records, (Target.record r).Fits context
  record? : ∀ collection id r, s.record? collection id = .ok (some r) →
    (Target.record r).Fits context

namespace Store

variable {st : Store} {r : Record} {rs : List Record}

theorem mem_allRecords_of_scan {collection : Option String}
    (listed : st.source.scan collection = .ok rs) (mem : r ∈ rs) : r ∈ st.allRecords := by
  cases inScope : st.scope? collection with
  | none =>
    cases collection with
    | none => cases inScope
    | some name =>
      rw [scan_of_unknown inScope] at listed
      cases listed
  | some scope =>
    rw [scan_of_scope? inScope] at listed
    cases listed
    rw [eq_filter_of_scope? inScope] at mem
    exact List.mem_of_mem_filter mem

theorem fits_source {context : Nat} (fits : ∀ r ∈ st.allRecords, (Target.record r).Fits context) :
    st.source.Fits context where
  candidates collection text records read r mem := by
    rw [candidates_eq_scan] at read
    exact fits r (mem_allRecords_of_scan read mem)
  record? collection id r found := by
    have found : st.record? collection id = .ok (some r) := found
    cases listed : st.records collection with
    | error f =>
      rw [record?, listed] at found
      cases found
    | ok rs =>
      rw [record?_of_records listed] at found
      have mem : r ∈ rs := List.mem_of_find?_eq_some (Except.ok.inj found)
      have scanned : st.source.scan (some collection) = .ok rs := listed
      exact fits r (mem_allRecords_of_scan scanned mem)

end Store

namespace Engine

/-- Where snippets are short enough, every result that is asked for with highlights agrees with its
own hits: those of the evaluation of its record, those of its leaf, or its near miss. -/
theorem results_report_hits (e : Engine) (s : Source) (fits : s.Fits e.context) :
    (∀ q page, q.highlight = true → e.search s q = .ok page → ∀ result ∈ page.results,
      ∃ expr records, q.expr? = some expr ∧
        s.candidates q.collection (normalizeText q.text) = .ok records ∧
        ((∃ r ∈ e.found q expr records, result = e.ownResult q expr r ∧
            result.Reports (e.evaluation q expr r).hits) ∨
          ∃ r ∈ records, ∃ h, result = e.nearResult true r h ∧
            result.Reports [e.hitOfNear h])) ∧
    ∀ collection id text results, e.searchWithin s collection id text = .ok results →
      ∀ result ∈ results, ∃ expr r, Query.freeText (normalizeText text) = some expr ∧
        s.record? collection id = .ok (some r) ∧
        ∃ leaf ∈ r.profile.leaves, result = e.resultOf r (e.leafEvaluation expr leaf) ∧
          result.Reports (e.leafEvaluation expr leaf).hits := by
  constructor
  · intro q page on answered result mem
    cases asked : q.expr? with
    | none =>
      rw [search_of_nothing s asked] at answered
      cases answered
      cases mem
    | some expr =>
      obtain ⟨records, read, rfl⟩ := exists_candidates_of_search asked answered
      refine ⟨expr, records, rfl, read, ?_⟩
      have listed : result ∈ e.listing q expr records :=
        List.mem_of_mem_drop (List.mem_of_mem_take mem)
      rcases origin_of_mem_listing listed with ⟨r, found, rfl⟩ | ⟨-, r, candidate, -, h, x, -, rfl⟩
      · refine .inl ⟨r, found, rfl, reports_resultOf e r ?_⟩
        have short := fits.candidates _ _ records read r (List.mem_filter.mp found).1
        exact fun h mem => Plan.highlights_ne_nil (s := e.settingOf q) short on mem
      · rw [on]
        exact .inr ⟨r, candidate, h, rfl, reports_nearResult e r h⟩
  · intro collection id text results answered result mem
    obtain ⟨expr, r, asked, found, leaf, listed, rfl⟩ := origin_of_mem_searchWithin answered mem
    refine ⟨expr, r, asked, found, leaf, listed, rfl, reports_resultOf e r ?_⟩
    have short : (Target.leaf leaf.1 leaf.2).Fits e.context :=
      (fits.record? collection id r found).leaf listed
    exact fun h mem => Plan.highlights_ne_nil (s := ⟨[], true, e.context⟩) short rfl mem

/-- Two terms meet in one field, which is named once with the highlights of both. -/
theorem results_report_hits_both_names :
    let e : Engine := ⟨.default, .edit, .default, 50⟩
    let ann : Record := ⟨"people", "1", "profile",
      ⟨[("core", .mapping [("name", .scalar (.text "Ann Lee"))])], rfl⟩, none⟩
    let st := Store.ofCollections (.ofList [("people", [ann])])
    let q := { Request.ofText "name:ann AND lee" with advanced := true }
    st.source.Fits e.context ∧ q.highlight = true ∧
      ∃ page result hits, e.search st.source q = .ok page ∧ result ∈ page.results ∧
        result.Reports hits ∧ result.matchedFields = ["core.name"] ∧
        result.highlights.find? "core.name" = some ["**Ann** Lee", "Ann **Lee**"] := by
  intro e ann st q
  let expr : Query.Expr := .and (.term ⟨some "name", "ann", false⟩) (.term ⟨none, "lee", false⟩)
  have fits : st.source.Fits e.context := by
    apply Store.fits_source
    intro r mem
    rw [List.mem_singleton.mp mem]
    intro text inside
    rw [List.mem_singleton.mp inside]
    decide
  have asked : q.expr? = some expr := by decide +kernel
  have one : e.found q expr [ann] = [ann] := by
    have matched : (allows q ann && (e.evaluation q expr ann).matched) = true := by decide +kernel
    exact List.filter_cons_of_pos matched
  have listing : e.listing q expr [ann] = [e.ownResult q expr ann] := by
    rw [listing_of_exact rfl, one, List.map_singleton, SearchResult.ranked,
      List.mergeSort_singleton]
  have scope : st.scope? q.collection = some [ann] := rfl
  have answered := search_of_scope (e := e) asked scope
  rw [listing] at answered
  have mem : e.ownResult q expr ann ∈ slice [e.ownResult q expr ann] q.offset q.limit :=
    List.mem_singleton.mpr rfl
  have reports : ∃ hits, (e.ownResult q expr ann).Reports hits := by
    obtain ⟨searched, -⟩ := results_report_hits e st.source fits
    obtain ⟨_, _, -, -, origin⟩ := searched q _ rfl answered _ mem
    rcases origin with ⟨_, -, -, reports⟩ | ⟨_, -, _, -, reports⟩
    · exact ⟨_, reports⟩
    · exact ⟨_, reports⟩
  obtain ⟨hits, reports⟩ := reports
  exact ⟨fits, rfl, _, _, hits, answered, mem, reports, by decide +kernel, by decide +kernel⟩

end Engine

end Dossier
