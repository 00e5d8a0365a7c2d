import Dossier.Proofs.Match.WordSet
import Dossier.Proofs.Search.Presentation

/-!
Searches for the same set of words. Without near misses a plain text counts only by the words that
stand in it: their order and their repetitions change neither which records are found, nor their
scores, nor, with that, their order.
-/

namespace Dossier

namespace SearchResult

/-- The result without what it reports of its record: its address, its kind, its score and its
summary are left. -/
def outline (r : SearchResult) : SearchResult :=
  { r with highlights := .empty, matchedFields := [] }

theorem keepsRank_outline : KeepsRank outline := fun _ => ⟨rfl, rfl⟩

end SearchResult

def Request.asking (q : Request) (text : String) : Request := { q with text := text }

@[simp] theorem Request.asking_text (q : Request) (text : String) : (q.asking text).text = text :=
  rfl

@[simp] theorem Request.asking_collection (q : Request) (text : String) :
    (q.asking text).collection = q.collection := rfl

theorem Request.expr?_asking {q : Request} (plain : q.advanced = false) (text : String) :
    (q.asking text).expr? = Query.freeText (normalizeText text) := by
  simp [expr?, asking, plain]

namespace Engine

variable {e : Engine} {q : Request} {text text' : String} {expr expr' : Query.Expr}

theorem outline_resultOf (e : Engine) (r : Record) (v : Evaluation) :
    (e.resultOf r v).outline =
      ⟨r.collection, r.id, r.kind, v.grade.score, .empty, [], e.schema.summarize r⟩ := by
  rw [resultOf_eq, SearchResult.outline]

theorem aborts_of_asked {s : Source} (asked : q.expr? = some expr) :
    e.aborts s q =
      (((s.candidates q.collection (normalizeText q.text)).toOption.getD []).filter
        (allows q)).any fun r => (Plan.compile expr).aborts (.record r) (e.settingOf q) := by
  cases listed : s.candidates q.collection (normalizeText q.text) with
  | error failure => simp [aborts, wish?_eq_map, asked, listed, Except.toOption]
  | ok records => simp [aborts, wish?_eq_map, asked, listed, Except.toOption]

theorem words_joined {ws : List String} (each : ∀ w ∈ ws, Text.IsWord w.toList) :
    Text.words (" ".intercalate ws).toList = ws.map String.toList := by
  rw [String.toList_intercalate]
  apply Text.words_intercalate
  intro w mem
  obtain ⟨v, listed, rfl⟩ := List.mem_map.mp mem
  exact each v listed

/-- What tells the same of every record is found in the same records, and lists them alike. -/
theorem outline_listing (exact : q.fuzzy = false) (text text' : String) (records : List Record)
    (same : ∀ r, (e.evaluation q expr r).TellsSame (e.evaluation q expr' r)) :
    (e.listing (q.asking text) expr records).map SearchResult.outline =
      (e.listing (q.asking text') expr' records).map SearchResult.outline := by
  have own (r : Record) : (e.ownResult (q.asking text) expr r).outline =
      (e.ownResult (q.asking text') expr' r).outline := by
    rw [ownResult, ownResult, outline_resultOf, outline_resultOf]
    have grade : (e.evaluation (q.asking text) expr r).grade =
        (e.evaluation (q.asking text') expr' r).grade := (same r).grade
    rw [grade]
  have found : e.found (q.asking text) expr records = e.found (q.asking text') expr' records := by
    apply List.filter_congr
    intro r _
    have matched : (e.evaluation (q.asking text) expr r).matched =
        (e.evaluation (q.asking text') expr' r).matched := (same r).matched
    rw [matched]
    rfl
  have shown (records : List Record) :
      (records.map (e.ownResult (q.asking text) expr)).map SearchResult.outline =
        (records.map (e.ownResult (q.asking text') expr')).map SearchResult.outline := by
    rw [List.map_map, List.map_map]
    apply List.map_congr_left
    intro r _
    exact own r
  rw [listing_of_exact (q := q.asking text) exact, listing_of_exact (q := q.asking text') exact,
    SearchResult.keepsRank_outline.map_ranked, SearchResult.keepsRank_outline.map_ranked, found,
    shown]

section

variable (plain : q.advanced = false)
  (filled : Text.words (normalizeText text).toList ≠ [])
  (filled' : Text.words (normalizeText text').toList ≠ [])
  (same : ∀ w, w ∈ Text.words (normalizeText text).toList ↔
    w ∈ Text.words (normalizeText text').toList)

include plain filled filled' same

theorem outline_search_of_same_words (exact : q.fuzzy = false) (e : Engine) {s : Source}
    (candidates : s.candidates q.collection (normalizeText text) =
      s.candidates q.collection (normalizeText text')) :
    (e.search s (q.asking text)).map (Page.map SearchResult.outline) =
      (e.search s (q.asking text')).map (Page.map SearchResult.outline) := by
  obtain ⟨expr, asked⟩ := Query.exists_freeText filled
  obtain ⟨expr', asked'⟩ := Query.exists_freeText filled'
  have read : e.search s (q.asking text) =
      ((s.candidates q.collection (normalizeText text)).map
        (e.pageOf (q.asking text) expr)).mapError .store :=
    search_of_asked (q := q.asking text) s ((Request.expr?_asking plain text).trans asked)
  have read' : e.search s (q.asking text') =
      ((s.candidates q.collection (normalizeText text')).map
        (e.pageOf (q.asking text') expr')).mapError .store :=
    search_of_asked (q := q.asking text') s ((Request.expr?_asking plain text').trans asked')
  rw [read, read', ← candidates]
  cases s.candidates q.collection (normalizeText text) with
  | error failure => simp only [Except.map, Except.mapError]
  | ok records =>
    have alike (r : Record) : (e.evaluation q expr r).TellsSame (e.evaluation q expr' r) :=
      Query.evaluation_of_same_words asked asked' same (.record r) (e.settingOf q)
    have page := map_pageOf e e (q.asking text) (q.asking text') ⟨rfl, rfl⟩
      (outline_listing exact text text' records alike)
    simp only [Except.map, Except.mapError, page]

theorem aborts_of_same_words (e : Engine) {s : Source}
    (candidates : s.candidates q.collection (normalizeText text) =
      s.candidates q.collection (normalizeText text')) :
    e.aborts s (q.asking text) = e.aborts s (q.asking text') := by
  obtain ⟨expr, asked⟩ := Query.exists_freeText filled
  obtain ⟨expr', asked'⟩ := Query.exists_freeText filled'
  rw [aborts_of_asked ((Request.expr?_asking plain text).trans asked),
    aborts_of_asked ((Request.expr?_asking plain text').trans asked')]
  simp only [Request.asking_text, Request.asking_collection, candidates]
  have each (r : Record) : (Plan.compile expr).aborts (.record r) (e.settingOf q) =
      (Plan.compile expr').aborts (.record r) (e.settingOf q) :=
    Query.aborts_of_same_words asked asked' same (.record r) (e.settingOf q)
  exact congrArg (List.any _) (funext each)

end

/-- A plain text counts by the set of its words. Two lists of the same words, in any order and with
any repetitions, are told alike by every record and every leaf and with any fields: both match or
none, with one score and with hits at the same paths. So two searches for them without near misses
give, of every store, the same number of results and the same results in the same order, up to what
they report of a record. -/
theorem search_depends_on_word_set {ws ws' : List String}
    (each : ∀ w ∈ ws ++ ws', Text.IsWord w.toList) (filled : ws ≠ [])
    (same : ∀ w, w ∈ ws ↔ w ∈ ws') :
    (∃ expr expr', Query.freeText (" ".intercalate ws) = some expr ∧
      Query.freeText (" ".intercalate ws') = some expr' ∧
      ∀ t s, (expr.evaluation t s).TellsSame (expr'.evaluation t s)) ∧
    ∀ (e : Engine) (q : Request) (text text' : String), q.advanced = false → q.fuzzy = false →
      Text.words (normalizeText text).toList = ws.map String.toList →
      Text.words (normalizeText text').toList = ws'.map String.toList → ∀ st : Store,
        (e.search st.source (q.asking text)).map (Page.map SearchResult.outline) =
            (e.search st.source (q.asking text')).map (Page.map SearchResult.outline) ∧
          e.aborts st.source (q.asking text) = e.aborts st.source (q.asking text') := by
  have filled' : ws' ≠ [] := by
    obtain ⟨w, rest, rfl⟩ := List.exists_cons_of_ne_nil filled
    exact List.ne_nil_of_mem ((same w).mp List.mem_cons_self)
  have sameLists : ∀ w, w ∈ ws.map String.toList ↔ w ∈ ws'.map String.toList := by
    intro w
    simp only [List.mem_map, same]
  refine ⟨?_, ?_⟩
  · have words : Text.words (" ".intercalate ws).toList = ws.map String.toList :=
      words_joined fun w mem => each w (List.mem_append_left _ mem)
    have words' : Text.words (" ".intercalate ws').toList = ws'.map String.toList :=
      words_joined fun w mem => each w (List.mem_append_right _ mem)
    have some : Text.words (" ".intercalate ws).toList ≠ [] := by
      rw [words]
      simpa using filled
    have some' : Text.words (" ".intercalate ws').toList ≠ [] := by
      rw [words']
      simpa using filled'
    obtain ⟨expr, asked⟩ := Query.exists_freeText some
    obtain ⟨expr', asked'⟩ := Query.exists_freeText some'
    refine ⟨expr, expr', asked, asked', ?_⟩
    intro t s
    apply Query.evaluation_of_same_words asked asked'
    rw [words, words']
    exact sameLists
  · intro e q text text' plain exact words words' st
    have some : Text.words (normalizeText text).toList ≠ [] := by
      rw [words]
      simpa using filled
    have some' : Text.words (normalizeText text').toList ≠ [] := by
      rw [words']
      simpa using filled'
    have candidates : st.source.candidates q.collection (normalizeText text) =
        st.source.candidates q.collection (normalizeText text') := by
      rw [Store.candidates_eq_scan, Store.candidates_eq_scan]
    rw [← words, ← words'] at sameLists
    exact ⟨outline_search_of_same_words plain some some' sameLists exact e candidates,
      aborts_of_same_words plain some some' sameLists e candidates⟩

/-- Another order, a word twice, and other blanks between them. -/
theorem search_depends_on_word_set_swapped :
    let ws := ["ann", "lee"]
    let ws' := ["lee", "ann", "lee"]
    let q := Request.ofText "ann lee"
    (∀ w ∈ ws ++ ws', Text.IsWord w.toList) ∧ ws ≠ [] ∧ (∀ w, w ∈ ws ↔ w ∈ ws') ∧
      ∀ (e : Engine) (st : Store),
        (e.search st.source q).map (Page.map SearchResult.outline) =
          (e.search st.source (q.asking "lee\tann lee ")).map (Page.map SearchResult.outline) := by
  intro ws ws' q
  have each : ∀ w ∈ ws ++ ws', Text.IsWord w.toList := by decide +kernel
  have same : ∀ w, w ∈ ws ↔ w ∈ ws' := by
    intro w
    simp only [ws, ws', List.mem_cons, List.not_mem_nil, or_false]
    tauto
  obtain ⟨-, alike⟩ := search_depends_on_word_set each (List.cons_ne_nil _ _) same
  have words : Text.words (normalizeText "ann lee").toList = ws.map String.toList := by
    decide +kernel
  have words' : Text.words (normalizeText "lee\tann lee ").toList = ws'.map String.toList := by
    decide +kernel
  refine ⟨each, List.cons_ne_nil _ _, same, ?_⟩
  intro e st
  exact (alike e q _ _ rfl rfl words words' st).1

end Engine

end Dossier
