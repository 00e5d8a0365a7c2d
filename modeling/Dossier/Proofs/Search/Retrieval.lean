import Dossier.Proofs.Match.Whole
import Dossier.Proofs.Search.Uniqueness
import Dossier.Proofs.Text.Normal

/-!
A value finds its own record. The text of a request is brought into normal form KC and a stored
value is not, so that this holds of a value that its normal form differs from in case at most.
-/

namespace Dossier

/-- What a request with this text asks for is the text itself, up to case. -/
def IsStable (text : String) : Prop :=
  Text.fold (normalizeText text).toList = Text.fold text.toList

instance (text : String) : Decidable (IsStable text) := inferInstanceAs (Decidable (_ = _))

theorem isStable_of_ascii {text : String} (word : Text.IsPlainWord text.toList)
    (ascii : (text.toList.all fun c => c.toNat < 0x80) = true) : IsStable text := by
  have low : ∀ c ∈ text.toList, c.toNat < 0xA0 := by
    intro c hc
    exact Nat.lt_trans (of_decide_eq_true (List.all_eq_true.mp ascii c hc)) (by decide)
  have normal : Text.nfkc text.toList = text.toList := Text.nfkc_of_lt low
  rw [IsStable, normalizeText, normal, Text.trim_of_unbroken word.unbroken, String.toList_ofList]

structure Request.AsksFor (q : Request) (text : String) : Prop where
  text : q.text = text
  plain : q.advanced = false
  anywhere : q.collection = none
  anyKind : q.kinds = []
  anyField : q.fields = []

theorem Request.AsksFor.expr?_eq {q : Request} {text : String} (asks : q.AsksFor text) :
    q.expr? = Query.freeText (normalizeText text) := by
  unfold expr?
  rw [asks.plain, asks.text]
  exact if_neg Bool.false_ne_true

theorem Query.freeText_of_isPlainWord {text : String} (word : Text.IsPlainWord text.toList) :
    Query.freeText text = some (.term ⟨none, text, false⟩) := by
  rw [freeText, Text.words_of_unbroken word.nonempty word.unbroken, List.map_singleton,
    String.ofList_toList]
  rfl

namespace Engine

variable {e : Engine} {st : Store} {q : Request} {expr : Query.Expr} {scope : List Record}
  {r : Record} {path v w : String}

/-- A record is found whole by a word that is the same, up to case, as one of its searched texts. -/
theorem evaluation_of_held (word : Text.IsPlainWord w.toList)
    (same : Text.fold w.toList = Text.fold v.toList) (searched : path ∈ e.fieldsOf q)
    (held : r.profile.get? path = some (.scalar (.text v))) :
    (e.evaluation q (.term ⟨none, w, false⟩) r).matched = true ∧
      (e.evaluation q (.term ⟨none, w, false⟩) r).grade = .whole := by
  have filled : v.toList ≠ [] := by
    intro empty
    rw [empty] at same
    exact word.nonempty (List.map_eq_nil_iff.mp same)
  have candidate :
      (path, Value.scalar (.text v)) ∈ (Target.record r).candidates (e.fieldsOf q) := by
    refine List.mem_flatMap.mpr ⟨path, searched, ?_⟩
    rw [Profile.occurrences, held]
    exact List.mem_singleton.mpr rfl
  have whole := Pattern.grade_outcome_of_whole (p := .part w) (List.mem_singleton.mpr rfl)
    (Pattern.grade_of_fold_eq filled same) q.highlight e.context
  have unfolded : e.evaluation q (.term ⟨none, w, false⟩) r =
      Plan.evaluateUnscoped (.compile w false) (e.settingOf q)
        ((Target.record r).candidates (e.fieldsOf q)) := rfl
  rw [unfolded, Pattern.compile_of_literal word.literal]
  exact Plan.evaluateUnscoped_of_whole candidate whole

theorem ownResult_mem_listing (distinct : st.HasDistinctIds)
    (inScope : st.scope? q.collection = some scope) (found : r ∈ e.found q expr scope) :
    e.ownResult q expr r ∈ e.listing q expr scope := by
  have own := List.mem_map_of_mem (f := e.ownResult q expr) found
  have nodup : (((e.found q expr scope).map (e.ownResult q expr)).map (·.key)).Nodup :=
    nodup_keys_ownResults distinct inScope
  rw [(perm_listing e q expr scope).mem_iff, withNear_eq]
  split
  · exact SearchResult.mem_mergeUnique_iff.mpr (.inl (SearchResult.find?_key_of_nodup nodup own))
  · exact own

theorem exact_match_of_found (asked : q.expr? = some expr)
    (inScope : st.scope? q.collection = some scope) (found : r ∈ e.found q expr scope)
    (whole : (e.evaluation q expr r).grade = .whole) :
    ∃ primary all s, e.primary? st q = some primary ∧ e.Lists st q all ∧
      s ∈ primary ∧ s.key = r.key ∧ s.score = 1.0 ∧ r.key ∈ all.map (·.key) ∧
      (q.fuzzy = false ∨ st.HasDistinctIds → s ∈ all) := by
  have own := List.mem_map_of_mem (f := e.ownResult q expr) found
  have score : (e.ownResult q expr r).score = Grade.whole.score := congrArg Grade.score whole
  refine ⟨_, _, e.ownResult q expr r, by rw [primary?, asked, inScope]; rfl,
    lists_listing asked inScope, own, rfl, score, key_mem_listing found, ?_⟩
  rintro (plain | distinct)
  · rw [listing_of_exact plain, (isRanking_ranked _).perm.mem_iff]
    exact own
  · exact ownResult_mem_listing distinct inScope found

/-- A record that holds a word at a searchable path is an exact match of a request for that word,
with the score of a whole value, and some result stands for it. It is its own result unless near
misses are asked for and another record has its address. -/
theorem value_finds_its_record (e : Engine) (st : Store) {q : Request} {r : Record}
    {path v : String} (stored : r ∈ st.allRecords) (searchable : path ∈ e.schema.searchable)
    (held : r.profile.get? path = some (.scalar (.text v))) (word : Text.IsPlainWord v.toList)
    (asks : q.AsksFor v) (stable : IsStable v) :
    ∃ primary all s, e.primary? st q = some primary ∧ e.Lists st q all ∧
      s ∈ primary ∧ s.key = r.key ∧ s.score = 1.0 ∧ r.key ∈ all.map (·.key) ∧
      (q.fuzzy = false ∨ st.HasDistinctIds → s ∈ all) := by
  have wordly : Text.IsPlainWord (normalizeText v).toList := word.of_fold_eq stable
  have asked : q.expr? = some (.term ⟨none, normalizeText v, false⟩) := by
    rw [asks.expr?_eq, Query.freeText_of_isPlainWord wordly]
  have inScope : st.scope? q.collection = some st.allRecords := by
    rw [asks.anywhere]
    rfl
  have searched : path ∈ e.fieldsOf q := by
    rw [fieldsOf, asks.anyField]
    exact searchable
  obtain ⟨matched, whole⟩ := evaluation_of_held wordly stable searched held
  refine exact_match_of_found asked inScope (List.mem_filter.mpr ⟨stored, ?_⟩) whole
  rw [matched, allows, asks.anyKind]
  rfl

/-- A name of ASCII letters is found, whatever else is asked for. -/
theorem value_finds_its_record_ascii_name :
    let e : Engine := ⟨.default, .edit, .default, 50⟩
    let zoe : Record := ⟨"case-1", "a", "profile",
      ⟨[("core", .mapping [("name", .scalar (.text "Zoe"))])], rfl⟩, none⟩
    let st := Store.ofCollections (.ofList [("case-1", [zoe])])
    let q := { Request.ofText "Zoe" with fuzzy := true, limit := 5 }
    zoe ∈ st.allRecords ∧ "core.name" ∈ e.schema.searchable ∧
      zoe.profile.get? "core.name" = some (.scalar (.text "Zoe")) ∧
      Text.IsPlainWord "Zoe".toList ∧ q.AsksFor "Zoe" ∧ IsStable "Zoe" ∧
      ∃ primary all s, e.primary? st q = some primary ∧ e.Lists st q all ∧
        s ∈ primary ∧ s.key = zoe.key ∧ s.score = 1.0 ∧ zoe.key ∈ all.map (·.key) ∧
        (q.fuzzy = false ∨ st.HasDistinctIds → s ∈ all) := by
  intro e zoe st q
  have stored : zoe ∈ st.allRecords := List.mem_singleton.mpr rfl
  have searchable : "core.name" ∈ e.schema.searchable := by decide
  have held : zoe.profile.get? "core.name" = some (.scalar (.text "Zoe")) := rfl
  have word : Text.IsPlainWord "Zoe".toList := by decide
  have asks : q.AsksFor "Zoe" := ⟨rfl, rfl, rfl, rfl, rfl⟩
  have stable : IsStable "Zoe" := isStable_of_ascii word (by decide)
  exact ⟨stored, searchable, held, word, asks, stable,
    value_finds_its_record e st stored searchable held word asks stable⟩

/-- A name that is written with a mark of its own is not found by itself: the text of the request is
composed, and the value is not. -/
theorem decomposed_value_not_found :
    let e : Engine := ⟨.default, .edit, .default, 50⟩
    let zoe : Record := ⟨"case-1", "a", "profile",
      ⟨[("core", .mapping [("name", .scalar (.text "Zoe\u0301"))])], rfl⟩, none⟩
    let st := Store.ofCollections (.ofList [("case-1", [zoe])])
    let q := Request.ofText "Zoe\u0301"
    zoe ∈ st.allRecords ∧ "core.name" ∈ e.schema.searchable ∧
      zoe.profile.get? "core.name" = some (.scalar (.text "Zoe\u0301")) ∧
      Text.IsPlainWord "Zoe\u0301".toList ∧ q.AsksFor "Zoe\u0301" ∧
      e.primary? st q = some [] ∧ e.Lists st q [] := by
  intro e zoe st q
  let expr : Query.Expr := .term ⟨none, "Zo\u00e9", false⟩
  have asked : q.expr? = some expr := by decide +kernel
  have inScope : st.scope? q.collection = some [zoe] := rfl
  have nothing : e.found q expr [zoe] = [] := by
    have missed : ¬(allows q zoe && (e.evaluation q expr zoe).matched) = true := by decide +kernel
    exact List.filter_cons_of_neg missed
  have listing : e.listing q expr [zoe] = [] := by
    rw [listing_of_exact rfl, nothing, List.map_nil, SearchResult.ranked, List.mergeSort_nil]
  have word : Text.IsPlainWord "Zoe\u0301".toList := by decide
  refine ⟨List.mem_singleton.mpr rfl, by decide, rfl, word, ⟨rfl, rfl, rfl, rfl, rfl⟩, ?_, ?_⟩
  · rw [primary?, asked, inScope]
    change some ((e.found q expr [zoe]).map (e.ownResult q expr)) = some []
    rw [nothing, List.map_nil]
  · rw [← listing]
    exact lists_listing asked inScope

end Engine

end Dossier
