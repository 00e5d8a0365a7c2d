import Dossier.Proofs.Match.Presentation
import Dossier.Proofs.Search.Report

/-!
Highlighting is presentation. Which results there are, in which order, with which scores and fields
is settled without looking at a highlight: a search without highlights gives the page of the same
search with all highlights left out, and a change of context changes the texts of snippets alone.
-/

namespace Dossier

namespace SearchResult

def bare (r : SearchResult) : SearchResult := { r with highlights := .empty }

def blanked (r : SearchResult) : SearchResult :=
  { r with highlights := r.highlights.mapEntries fun _ snippets => Plan.blanked snippets }

/-- The change shows in neither the key nor the score. -/
def KeepsRank (f : SearchResult → SearchResult) : Prop :=
  ∀ r, (f r).key = r.key ∧ (f r).score = r.score

theorem keepsRank_bare : KeepsRank bare := fun _ => ⟨rfl, rfl⟩

theorem keepsRank_blanked : KeepsRank blanked := fun _ => ⟨rfl, rfl⟩

variable {f : SearchResult → SearchResult}

theorem KeepsRank.keys (keeps : KeepsRank f) (results : List SearchResult) :
    (results.map f).map key = results.map key := by
  rw [List.map_map]
  exact List.map_congr_left fun r _ => (keeps r).1

theorem KeepsRank.map_firstPerKey (keeps : KeepsRank f) (seen : List (String × String))
    (results : List SearchResult) :
    (firstPerKey seen results).map f = firstPerKey seen (results.map f) := by
  induction results generalizing seen with
  | nil => rfl
  | cons r rest ih =>
    rw [List.map_cons, firstPerKey, firstPerKey, (keeps r).1]
    split
    · exact ih seen
    · rw [List.map_cons, ih]

theorem KeepsRank.map_mergeUnique (keeps : KeepsRank f) (xs ys : List SearchResult) :
    (mergeUnique xs ys).map f = mergeUnique (xs.map f) (ys.map f) := by
  rw [mergeUnique, mergeUnique, keeps.map_firstPerKey, List.map_append]

theorem KeepsRank.map_ranked (keeps : KeepsRank f) (results : List SearchResult) :
    (ranked results).map f = ranked (results.map f) := by
  apply List.map_mergeSort
  intro a _ b _
  rw [(keeps a).2, (keeps b).2]

theorem mapEntries_showHit (d : Dict (List String)) (h : Hit) :
    (showHit d h).mapEntries (fun _ snippets => Plan.blanked snippets) =
      showHit (d.mapEntries fun _ snippets => Plan.blanked snippets) (h.relight Plan.blanked) := by
  have silent : (h.relight Plan.blanked).highlights.isEmpty = h.highlights.isEmpty := by
    rw [Hit.relight, Plan.blanked, List.isEmpty_map]
  rw [showHit, showHit, silent]
  split
  · rfl
  · rw [Dict.update, Dict.update, Dict.mapEntries_insert, Dict.find?_mapEntries, Hit.relight]
    cases d.find? h.path with
    | none => rfl
    | some snippets => simp only [Plan.blanked, Option.getD_some, Option.map_some, List.map_append]

end SearchResult

structure Look where
  highlight : Bool
  context : Nat
  deriving DecidableEq, Repr

def Engine.under (e : Engine) (look : Look) : Engine := { e with context := look.context }

def Request.under (q : Request) (look : Look) : Request := { q with highlight := look.highlight }

def Page.map (f : SearchResult → SearchResult) (p : Page) : Page := ⟨p.total, p.results.map f⟩

theorem Page.map_id : Page.map id = id := by
  funext p
  rw [map, List.map_id]
  rfl

theorem Evaluation.relight_id (v : Evaluation) : v.relight id = v := by
  have same : v.hits.map (Hit.relight id) = v.hits := List.map_id v.hits
  rw [relight, same]

namespace Engine

variable {e : Engine} {q : Request} {r : Record} {v : Evaluation}

theorem resultOf_eq (e : Engine) (r : Record) (v : Evaluation) :
    e.resultOf r v = ⟨r.collection, r.id, r.kind, v.grade.score, v.hits.foldl showHit .empty,
      v.hits.foldl nameHit [], e.schema.summarize r⟩ := rfl

theorem foldl_nameHit_relight (f : List String → List String) (hits : List Hit) :
    (hits.map (Hit.relight f)).foldl nameHit [] = hits.foldl nameHit [] := by
  rw [List.foldl_map]
  rfl

theorem bare_resultOf (e : Engine) (r : Record) (v : Evaluation) :
    (e.resultOf r v).bare = e.resultOf r (v.relight Plan.unlit) := by
  have nothing (hits : List Hit) (d : Dict (List String)) :
      (hits.map (Hit.relight Plan.unlit)).foldl showHit d = d := by
    induction hits with
    | nil => rfl
    | cons h rest ih => exact ih
  rw [resultOf_eq, resultOf_eq, Evaluation.relight, SearchResult.bare]
  dsimp only
  rw [nothing, foldl_nameHit_relight]

theorem blanked_resultOf (e : Engine) (r : Record) (v : Evaluation) :
    (e.resultOf r v).blanked = e.resultOf r (v.relight Plan.blanked) := by
  have shown (hits : List Hit) (d : Dict (List String)) :
      (hits.foldl showHit d).mapEntries (fun _ snippets => Plan.blanked snippets) =
        (hits.map (Hit.relight Plan.blanked)).foldl showHit
          (d.mapEntries fun _ snippets => Plan.blanked snippets) := by
    induction hits generalizing d with
    | nil => rfl
    | cons h rest ih =>
      rw [List.foldl_cons, ih, SearchResult.mapEntries_showHit, List.map_cons, List.foldl_cons]
  rw [resultOf_eq, resultOf_eq, Evaluation.relight, SearchResult.blanked]
  dsimp only
  rw [shown, foldl_nameHit_relight]
  rfl

variable (e : Engine) (q : Request) {expr : Query.Expr} {f g : SearchResult → SearchResult}
  {l m : Look} {records : List Record}

theorem map_nearResults (text : String) (candidates : List Record)
    {results results' : List SearchResult} (keys : results.map (·.key) = results'.map (·.key))
    (near : ∀ r h, f ((e.under l).nearResult l.highlight r h) =
      g ((e.under m).nearResult m.highlight r h)) :
    ((e.under l).nearResults (q.under l) text candidates results).map f =
      ((e.under m).nearResults (q.under m) text candidates results').map g := by
  rw [nearResults, nearResults, keys, List.map_filterMap, List.map_filterMap]
  refine List.filterMap_congr fun h _ => ?_
  rw [Option.map_map, Option.map_map]
  exact congrArg (Option.map · _) (funext fun r => near r h)

/-- Changes that show in neither key nor score commute with all that is done to the results of the
records, so that two looks differ in the whole list by no more than in each result. -/
theorem map_listing (hf : SearchResult.KeepsRank f) (hg : SearchResult.KeepsRank g)
    (matched : ∀ r ∈ records, ((e.under l).evaluation (q.under l) expr r).matched =
      ((e.under m).evaluation (q.under m) expr r).matched)
    (own : ∀ r ∈ records, f ((e.under l).ownResult (q.under l) expr r) =
      g ((e.under m).ownResult (q.under m) expr r))
    (near : ∀ r h, f ((e.under l).nearResult l.highlight r h) =
      g ((e.under m).nearResult m.highlight r h)) :
    ((e.under l).listing (q.under l) expr records).map f =
      ((e.under m).listing (q.under m) expr records).map g := by
  have found : (e.under l).found (q.under l) expr records =
      (e.under m).found (q.under m) expr records := by
    apply List.filter_congr
    intro r mem
    rw [matched r mem]
    rfl
  have primary : (((e.under l).found (q.under l) expr records).map
        ((e.under l).ownResult (q.under l) expr)).map f =
      (((e.under m).found (q.under m) expr records).map
        ((e.under m).ownResult (q.under m) expr)).map g := by
    rw [found, List.map_map, List.map_map]
    apply List.map_congr_left
    intro r mem
    exact own r (List.mem_filter.mp mem).1
  have keys : (((e.under l).found (q.under l) expr records).map
        ((e.under l).ownResult (q.under l) expr)).map (·.key) =
      (((e.under m).found (q.under m) expr records).map
        ((e.under m).ownResult (q.under m) expr)).map (·.key) := by
    rw [keys_ownResults, keys_ownResults, found]
  have nears := map_nearResults e q (q.under l).nearText (records.filter (allows q)) keys near
  have count : ((e.under l).found (q.under l) expr records).length =
      ((e.under m).found (q.under m) expr records).length := congrArg List.length found
  rw [listing, listing, hf.map_ranked, hg.map_ranked]
  apply congrArg SearchResult.ranked
  rw [withNear_eq, withNear_eq, List.length_map, List.length_map, count]
  have sameWanted (n : Nat) : Near.isWanted (e.under l).similarity (q.under l).fuzzy n
      (q.under l).limit = Near.isWanted (e.under m).similarity (q.under m).fuzzy n
        (q.under m).limit := rfl
  rw [sameWanted]
  split
  · rw [hf.map_mergeUnique, hg.map_mergeUnique, primary]
    exact congrArg (SearchResult.mergeUnique _) nears
  · exact primary

omit q in
theorem map_pageOf (e' : Engine) (q q' : Request) {expr expr' : Query.Expr}
    (cut : q'.offset = q.offset ∧ q'.limit = q.limit)
    (same : (e.listing q expr records).map f = (e'.listing q' expr' records).map g) :
    (e.pageOf q expr records).map f = (e'.pageOf q' expr' records).map g := by
  have total := congrArg List.length same
  rw [List.length_map, List.length_map] at total
  rw [pageOf, pageOf, Page.map, Page.map, total, cut.1, cut.2, slice, slice, List.map_take,
    List.map_drop, same, List.map_take, List.map_drop]

theorem map_search (s : Source)
    (same : ∀ expr records, q.expr? = some expr →
      s.candidates q.collection (normalizeText q.text) = .ok records →
        ((e.under l).listing (q.under l) expr records).map f =
          ((e.under m).listing (q.under m) expr records).map g) :
    ((e.under l).search s (q.under l)).map (Page.map f) =
      ((e.under m).search s (q.under m)).map (Page.map g) := by
  cases asked : q.expr? with
  | none =>
    rw [search_of_nothing (q := q.under l) s asked, search_of_nothing (q := q.under m) s asked]
    simp only [Except.map, Page.map, Page.empty, List.map_nil]
  | some expr =>
    have read (l : Look) : (e.under l).search s (q.under l) =
        ((s.candidates q.collection (normalizeText q.text)).map
          ((e.under l).pageOf (q.under l) expr)).mapError .store :=
      search_of_asked (q := q.under l) s asked
    rw [read, read]
    cases candidates : s.candidates q.collection (normalizeText q.text) with
    | error failure => simp only [Except.map, Except.mapError]
    | ok records =>
      have page := map_pageOf (e.under l) (e.under m) (q.under l) (q.under m)
        ⟨rfl, rfl⟩ (same expr records asked candidates)
      simp only [Except.map, Except.mapError, page]

theorem relight_evaluation {f g : List String → List String} (expr : Query.Expr) (r : Record)
    (alike : ∀ v : Value, (∀ text ∈ v.texts, text ∈ (Target.record r).texts) →
      Plan.LightsAlike f g ((e.under l).settingOf (q.under l)) ((e.under m).settingOf (q.under m))
        v.texts) :
    ((e.under l).evaluation (q.under l) expr r).relight f =
      ((e.under m).evaluation (q.under m) expr r).relight g := by
  have fields : ((e.under l).settingOf (q.under l)).fields =
      ((e.under m).settingOf (q.under m)).fields := rfl
  exact Plan.relight_run fields alike (Plan.compile expr)

theorem ownResult_under (l : Look) (expr : Query.Expr) (r : Record) :
    (e.under l).ownResult (q.under l) expr r =
      e.resultOf r ((e.under l).evaluation (q.under l) expr r) := rfl

theorem blanked_nearResult (highlight : Bool) (r : Record) (h : Near.Hit) :
    ((e.under l).nearResult highlight r h).blanked =
      ((e.under m).nearResult highlight r h).blanked := by
  cases highlight with
  | false => rfl
  | true => rfl

theorem bare_listing (off : l.highlight = false) (expr : Query.Expr) (records : List Record) :
    ((e.under m).listing (q.under m) expr records).map SearchResult.bare =
      ((e.under l).listing (q.under l) expr records).map id := by
  have alike (r : Record) := relight_evaluation e q (l := m) (m := l) expr r fun v _ =>
    Plan.lightsAlike_unlit v.texts off
  apply map_listing e q SearchResult.keepsRank_bare fun _ => ⟨rfl, rfl⟩
  · intro r _
    have matched := congrArg Evaluation.matched (alike r)
    exact matched
  · intro r _
    rw [ownResult_under, ownResult_under, bare_resultOf, alike r, Evaluation.relight_id]
  · intro r h
    rw [off]
    rfl

theorem blanked_listing (same : l.highlight = m.highlight)
    (fits : ∀ r ∈ records, (Target.record r).Fits l.context)
    (fits' : ∀ r ∈ records, (Target.record r).Fits m.context) (expr : Query.Expr) :
    ((e.under l).listing (q.under l) expr records).map SearchResult.blanked =
      ((e.under m).listing (q.under m) expr records).map SearchResult.blanked := by
  have alike (r : Record) (mem : r ∈ records) :=
    relight_evaluation e q (l := l) (m := m) expr r fun v inside =>
      Plan.lightsAlike_blanked same (fun text mem' => fits r mem text (inside text mem'))
        fun text mem' => fits' r mem text (inside text mem')
  apply map_listing e q SearchResult.keepsRank_blanked SearchResult.keepsRank_blanked
  · intro r mem
    have matched := congrArg Evaluation.matched (alike r mem)
    exact matched
  · intro r mem
    rw [ownResult_under, ownResult_under, blanked_resultOf, blanked_resultOf, alike r mem]
  · intro r h
    rw [same]
    exact blanked_nearResult e m.highlight r h

/-- Turning highlights off empties every map of highlights and changes nothing else; another context
changes nothing but the texts of snippets. -/
theorem highlighting_is_presentation (e : Engine) (s : Source) (q : Request) {c c' : Nat}
    (fits : s.Fits c) (fits' : s.Fits c') :
    { e with context := c }.search s { q with highlight := false } =
        ({ e with context := c' }.search s { q with highlight := true }).map
          (Page.map SearchResult.bare) ∧
      ({ e with context := c }.search s q).map (Page.map SearchResult.blanked) =
        ({ e with context := c' }.search s q).map (Page.map SearchResult.blanked) := by
  constructor
  · have same := map_search e q (l := ⟨true, c'⟩) (m := ⟨false, c⟩) s fun expr records _ _ =>
      bare_listing e q (l := ⟨false, c⟩) (m := ⟨true, c'⟩) rfl expr records
    rw [Page.map_id, Except.map_id, id_eq] at same
    exact same.symm
  · exact map_search e q (l := ⟨q.highlight, c⟩) (m := ⟨q.highlight, c'⟩) s
      fun expr records _ read =>
        blanked_listing e q (l := ⟨q.highlight, c⟩) (m := ⟨q.highlight, c'⟩) rfl
          (fits.candidates _ _ records read) (fits'.candidates _ _ records read) expr

/-- A short context cuts the snippet, and without highlights there is none. -/
theorem highlighting_is_presentation_short :
    let e : Engine := ⟨.default, .edit, .default, 50⟩
    let alice : Record := ⟨"people", "1", "profile",
      ⟨[("core", .mapping [("name", .scalar (.text "Alice Liddell"))])], rfl⟩, none⟩
    let st := Store.ofCollections (.ofList [("people", [alice])])
    let q := Request.ofText "alice"
    st.source.Fits 50 ∧ st.source.Fits 3 ∧
      ∃ wide short dark, e.search st.source q = .ok wide ∧
        { e with context := 3 }.search st.source q = .ok short ∧
        e.search st.source { q with highlight := false } = .ok dark ∧
        wide.results.map (·.highlights.entries) = [[("core.name", ["**Alice** Liddell"])]] ∧
        short.results.map (·.highlights.entries) = [[("core.name", ["**Alice** Li..."])]] ∧
        wide.map SearchResult.blanked = short.map SearchResult.blanked ∧
        dark = short.map SearchResult.bare := by
  intro e alice st q
  let expr : Query.Expr := .term ⟨none, "alice", false⟩
  have fits (context : Nat) (small : context ≤ 50) : st.source.Fits context := by
    apply Store.fits_source
    intro r mem
    rw [List.mem_singleton.mp mem]
    intro text inside
    rw [List.mem_singleton.mp inside]
    have length : "Alice Liddell".toList.length = 13 := rfl
    have size : UInt64.size = 18446744073709551616 := rfl
    rw [Snippet.Fits, length, size]
    omega
  have asked : q.expr? = some expr := by decide +kernel
  have scope : st.scope? q.collection = some [alice] := rfl
  have one (context : Nat) (matched : (allows q alice &&
      ({ e with context := context }.evaluation q expr alice).matched) = true) :
      { e with context := context }.search st.source q =
        .ok ⟨1, [{ e with context := context }.ownResult q expr alice]⟩ := by
    have found : { e with context := context }.found q expr [alice] = [alice] :=
      List.filter_cons_of_pos matched
    rw [search_of_scope asked scope, listing_of_exact rfl, found, List.map_singleton,
      SearchResult.ranked, List.mergeSort_singleton]
    rfl
  have wide := one 50 (by decide +kernel)
  have short := one 3 (by decide +kernel)
  obtain ⟨dark, same⟩ := highlighting_is_presentation e st.source q (fits 50 (by omega))
    (fits 3 (by omega))
  have lit : { q with highlight := true } = q := rfl
  rw [wide, short] at same
  rw [lit, short] at dark
  exact ⟨fits 50 (by omega), fits 3 (by omega), _, _, _, wide, short, dark, by decide +kernel,
    by decide +kernel, Except.ok.inj same, rfl⟩

end Engine

end Dossier
