import Dossier.Proofs.Search.Index
import Dossier.Proofs.Store.Distinct
import Mathlib

/-!
What a rebuild of the index leaves behind. The table of search texts goes by ids, and a rebuild
writes the ids of the records in question whichever collection they are in. Another collection is
answered as before just as long as nothing of its own is written.
-/

namespace Dossier

def lastWith? (records : List Record) (id : String) : Option Record :=
  (records.filter (·.id = id)).getLast?

theorem lastWith?_eq_none_iff {records : List Record} {id : String} :
    lastWith? records id = none ↔ ∀ r ∈ records, r.id ≠ id := by
  rw [lastWith?, List.getLast?_eq_none_iff, List.filter_eq_nil_iff]
  simp only [decide_eq_true_eq, ne_eq]

theorem lastWith?_of_mem {records : List Record} {r : Record}
    (distinct : (records.map (·.id)).Nodup) (mem : r ∈ records) :
    lastWith? records r.id = some r := by
  cases last : lastWith? records r.id with
  | none => exact absurd rfl (lastWith?_eq_none_iff.mp last r mem)
  | some s =>
    obtain ⟨listed, same⟩ := List.mem_filter.mp (List.mem_of_getLast? last)
    rw [decide_eq_true_eq] at same
    rw [List.inj_on_of_nodup_map distinct listed mem same]

def Engine.indexText? (e : Engine) (records : List Record) (id : String) : Option String :=
  (lastWith? records id).map fun r => SearchText.ofRecord r e.schema.searchable

namespace Store

variable {st now : Store} {records : List Record} {query : String}

theorem searchText?_upsert (st : Store) (id text other : String) :
    (st.upsert id text).searchText? other = if id = other then some text else st.searchText? other :=
  st.texts.find?_insert id other text

/-- Of all that is written for one id the last stays. -/
theorem searchText?_foldl_upsert (text : Record → String) (records : List Record) (st : Store)
    (id : String) :
    (records.foldl (fun s r => s.upsert r.id (text r)) st).searchText? id =
      ((lastWith? records id).map text).or (st.searchText? id) := by
  induction records generalizing st with
  | nil => rfl
  | cons r rest ih =>
    rw [List.foldl_cons, ih, searchText?_upsert, lastWith?, lastWith?, List.filter_cons]
    by_cases own : r.id = id
    · simp only [own, decide_true, if_true, List.getLast?_cons]
      cases (rest.filter (·.id = id)).getLast? with
      | none => rfl
      | some last => rfl
    · simp only [own, decide_false, if_false, Bool.false_eq_true]

theorem searchText?_rebuild (e : Engine) (st : Store) (name id : String) :
    (st.next (.rebuild e (some name))).searchText? id =
      (e.indexText? (st.held name) id).or (st.searchText? id) := by
  cases known : st.scope? (some name) with
  | none =>
    simp only [next, Engine.rebuildIndex, scan_of_unknown known, held_of_unknown known]
    rfl
  | some scope =>
    simp only [next, Engine.rebuildIndex, scan_of_scope? known, held_of_scope? known]
    exact searchText?_foldl_upsert _ scope st id

theorem searchText?_rebuild_all (e : Engine) (st : Store) (id : String) :
    (st.next (.rebuild e none)).searchText? id =
      (e.indexText? st.allRecords id).or (st.searchText? id) := by
  simp only [next, Engine.rebuildIndex, scan_none]
  exact searchText?_foldl_upsert _ st.allRecords st id

def coverage (st : Store) (records : List Record) : Nat :=
  records.countP fun r => (st.searchText? r.id).isSome

def Covers (st : Store) (records : List Record) : Prop :=
  records ≠ [] ∧ ∀ r ∈ records, (st.searchText? r.id).isSome

theorem coverage_eq_length_iff :
    st.coverage records = records.length ↔ ∀ r ∈ records, (st.searchText? r.id).isSome :=
  List.countP_eq_length

theorem indexHits_of_covers (covered : st.Covers records) :
    st.indexHits records query = .ok (records.map fun r =>
      ⟨SearchText.share (SearchText.wordsOf query) ((st.searchText? r.id).getD ""), r⟩) := by
  obtain ⟨nonempty, all⟩ := covered
  have full : st.coverage records = records.length := coverage_eq_length_iff.mpr all
  have nonzero : records.length ≠ 0 := fun zero => nonempty (List.length_eq_zero_iff.mp zero)
  have passed : ¬(st.coverage records = 0 || st.coverage records < records.length) = true := by
    simp [full, nonzero]
  exact if_neg passed

/-- After a rebuild of all collections the index has the text of each record. -/
theorem indexed_rebuild_all (e : Engine) (distinct : (st.allRecords.map (·.id)).Nodup)
    (nonempty : st.allRecords ≠ []) (query : String) :
    (st.next (.rebuild e none)).indexed none query = .ok (st.allRecords.map fun r =>
      ⟨SearchText.share (SearchText.wordsOf query) (SearchText.ofRecord r e.schema.searchable),
        r⟩) := by
  have written : ∀ r ∈ st.allRecords, (st.next (.rebuild e none)).searchText? r.id =
      some (SearchText.ofRecord r e.schema.searchable) := by
    intro r mem
    rw [searchText?_rebuild_all, Engine.indexText?, lastWith?_of_mem distinct mem]
    rfl
  obtain ⟨texts, now⟩ := st.next_eq_withTexts (.rebuild e none)
  rw [now] at written ⊢
  have covered : (st.withTexts texts).Covers st.allRecords := by
    refine ⟨nonempty, ?_⟩
    intro r mem
    rw [written r mem, Option.isSome_some]
  rw [indexed_eq_scan_bind, scan_none, allRecords_withTexts]
  refine (indexHits_of_covers covered).trans (congrArg Except.ok ?_)
  apply List.map_congr_left
  intro r mem
  rw [written r mem, Option.getD_some]

theorem indexHits_of_not_covers (gap : ¬st.Covers records) :
    st.indexHits records query = .error (.indexUnavailable
      (toString (st.coverage records) ++ " of " ++ toString records.length ++
        " records indexed")) := by
  have refused : (st.coverage records = 0 || st.coverage records < records.length) = true := by
    have most : st.coverage records ≤ records.length := List.countP_le_length
    by_cases full : st.coverage records = records.length
    · have empty : records = [] :=
        not_not.mp fun nonempty => gap ⟨nonempty, coverage_eq_length_iff.mp full⟩
      simp [empty, coverage]
    · have partly : st.coverage records < records.length := by omega
      simp [partly]
  exact if_pos refused

theorem indexHits_nil (st : Store) (query : String) :
    st.indexHits [] query = .error (.indexUnavailable
      (toString 0 ++ " of " ++ toString 0 ++ " records indexed")) :=
  indexHits_of_not_covers fun covered => covered.1 rfl

theorem indexHits_eq_iff :
    now.indexHits records query = st.indexHits records query ↔
      now.coverage records = st.coverage records ∧
        (st.Covers records → ∀ r ∈ records,
          SearchText.share (SearchText.wordsOf query) ((now.searchText? r.id).getD "") =
            SearchText.share (SearchText.wordsOf query) ((st.searchText? r.id).getD "")) := by
  by_cases before : st.Covers records
  · have full := coverage_eq_length_iff.mpr before.2
    by_cases after : now.Covers records
    · rw [indexHits_of_covers before, indexHits_of_covers after, Except.ok.injEq,
        List.map_inj_left]
      simp only [IndexHit.mk.injEq, and_true, before, true_imp_iff, full,
        coverage_eq_length_iff.mpr after.2, true_and]
    · rw [indexHits_of_covers before, indexHits_of_not_covers after]
      refine iff_of_false nofun fun same => after ⟨before.1, ?_⟩
      exact coverage_eq_length_iff.mp (same.1.trans full)
  · by_cases after : now.Covers records
    · rw [indexHits_of_not_covers before, indexHits_of_covers after]
      refine iff_of_false nofun fun same => before ⟨after.1, ?_⟩
      exact coverage_eq_length_iff.mp (same.1.symm.trans (coverage_eq_length_iff.mpr after.2))
    · -- The count is told in the message, so that equal refusals mean equal counts.
      rw [indexHits_of_not_covers before, indexHits_of_not_covers after]
      simp only [Except.error.injEq, StoreError.indexUnavailable.injEq, String.append_left_inj,
        before, false_imp_iff, and_true]
      exact Nat.repr_inj

theorem coverage_eq_iff
    (kept : ∀ id, (st.searchText? id).isSome → (now.searchText? id).isSome) :
    now.coverage records = st.coverage records ↔
      ∀ r ∈ records, (now.searchText? r.id).isSome → (st.searchText? r.id).isSome := by
  constructor
  · intro same r mem written
    -- Those with a text before are among those with one now, and are as many.
    have more : (records.filter fun r => (st.searchText? r.id).isSome).Sublist
        (records.filter fun r => (now.searchText? r.id).isSome) :=
      List.monotone_filter_right records fun r => kept r.id
    rw [coverage, coverage, List.countP_eq_length_filter, List.countP_eq_length_filter] at same
    have covered : r ∈ records.filter fun r => (now.searchText? r.id).isSome :=
      List.mem_filter.mpr ⟨mem, written⟩
    rw [← more.eq_of_length same.symm] at covered
    exact (List.mem_filter.mp covered).2
  · intro nothingNew
    exact List.countP_congr fun r mem => ⟨nothingNew r mem, kept r.id⟩

/-- Writing these texts does not show in what the index says of some records: a record whose text is
written had one already, and where all of them had one the new text holds the same share of the
query. -/
def Hides (st : Store) (written : String → Option String) (records : List Record)
    (query : String) : Prop :=
  ∀ r ∈ records, ∀ text, written r.id = some text →
    ∃ old, st.searchText? r.id = some old ∧ (st.Covers records →
      SearchText.share (SearchText.wordsOf query) text =
        SearchText.share (SearchText.wordsOf query) old)

theorem indexHits_eq_iff_hides {written : String → Option String}
    (grown : ∀ id, now.searchText? id = (written id).or (st.searchText? id)) :
    now.indexHits records query = st.indexHits records query ↔ st.Hides written records query := by
  have kept (id : String) (before : (st.searchText? id).isSome) : (now.searchText? id).isSome := by
    rw [grown, Option.isSome_or, before, Bool.or_true]
  rw [indexHits_eq_iff, coverage_eq_iff kept]
  constructor
  · rintro ⟨nothingNew, alike⟩ r mem text new
    have after : now.searchText? r.id = some text := by rw [grown, new, Option.some_or]
    obtain ⟨old, before⟩ := Option.isSome_iff_exists.mp <|
      nothingNew r mem (by rw [after, Option.isSome_some])
    refine ⟨old, before, fun covered => ?_⟩
    have same := alike covered r mem
    rwa [after, before, Option.getD_some, Option.getD_some] at same
  · intro replaced
    constructor
    · intro r mem after
      cases new : written r.id with
      | none => rwa [grown, new, Option.none_or] at after
      | some text =>
        obtain ⟨old, before, -⟩ := replaced r mem text new
        rw [before, Option.isSome_some]
    · intro covered r mem
      cases new : written r.id with
      | none => rw [grown, new, Option.none_or]
      | some text =>
        obtain ⟨old, before, alike⟩ := replaced r mem text new
        rw [grown, new, Option.some_or, before, Option.getD_some, Option.getD_some, alike covered]

/-- Only the texts decide whether the answers of two stores differ. -/
theorem indexed_withTexts_eq_iff (st : Store) (texts : Dict String) (name query : String) :
    (st.withTexts texts).indexed (some name) query = st.indexed (some name) query ↔
      (st.withTexts texts).indexHits (st.held name) query = st.indexHits (st.held name) query := by
  rw [indexed_eq_scan_bind, indexed_eq_scan_bind, scan_withTexts]
  cases known : st.scope? (some name) with
  | none =>
    rw [scan_of_unknown known, held_of_unknown known, indexHits_nil, indexHits_nil]
    simp only [Except.bind]
  | some scope =>
    rw [scan_of_scope? known, held_of_scope? known]
    rfl

/-- Rebuilding one collection keeps the answers for another that shares no id with it. In general it
keeps those that do not show what is written for the ids of the other collection. -/
theorem rebuild_keeps_answers (e : Engine) (st : Store) (rebuilt asked : String) :
    ((∀ r ∈ st.held asked, ∀ s ∈ st.held rebuilt, s.id ≠ r.id) → ∀ query,
      (st.next (.rebuild e (some rebuilt))).indexed (some asked) query =
        st.indexed (some asked) query) ∧
    ∀ query,
      (st.next (.rebuild e (some rebuilt))).indexed (some asked) query =
          st.indexed (some asked) query ↔
        st.Hides (e.indexText? (st.held rebuilt)) (st.held asked) query := by
  have grown := searchText?_rebuild e st rebuilt
  obtain ⟨texts, now⟩ := st.next_eq_withTexts (.rebuild e (some rebuilt))
  rw [now] at grown ⊢
  have exactly (query : String) :=
    (indexed_withTexts_eq_iff st texts asked query).trans (indexHits_eq_iff_hides grown)
  refine ⟨fun apart query => (exactly query).mpr fun r mem text written => ?_, exactly⟩
  have unwritten : lastWith? (st.held rebuilt) r.id = none :=
    lastWith?_eq_none_iff.mpr (apart r mem)
  rw [Engine.indexText?, unwritten] at written
  cases written

/-- Two records of different ids, the second with a text of its own. -/
theorem rebuild_keeps_answers_apart :
    let e : Engine := ⟨.default, .off, .default, 50⟩
    let record (id name : String) : Record := ⟨"", id, "profile",
      ⟨[("core", .mapping [("name", .scalar (.text name))])], rfl⟩, none⟩
    let st := (Store.ofCollections (.ofList
      [("case-1", [record "a" "Ann"]), ("case-2", [record "b" "Ben"])])).upsert "b" "ben"
    (∀ r ∈ st.held "case-2", ∀ s ∈ st.held "case-1", s.id ≠ r.id) ∧
      ∀ query, (st.next (.rebuild e (some "case-1"))).indexed (some "case-2") query =
        st.indexed (some "case-2") query := by
  intro e record st
  have apart : ∀ r ∈ st.held "case-2", ∀ s ∈ st.held "case-1", s.id ≠ r.id := by decide +kernel
  exact ⟨apart, (rebuild_keeps_answers e st "case-1" "case-2").1 apart⟩

/-- Rebuilding the collection of Ann makes the index answer for the collection of Ben, whose record
has the same id, and it answers with the name of Ann. -/
theorem rebuild_answers_for_another :
    let e : Engine := ⟨.default, .off, .default, 50⟩
    let record (collection name : String) : Record := ⟨collection, "a", "profile",
      ⟨[("core", .mapping [("name", .scalar (.text name))])], rfl⟩, none⟩
    let st := Store.ofCollections (.ofList
      [("case-1", [record "case-1" "Ann"]), ("case-2", [record "case-2" "Ben"])])
    "case-1" ≠ "case-2" ∧
      st.indexed (some "case-2") "ann" = .error (.indexUnavailable "0 of 1 records indexed") ∧
      (st.next (.rebuild e (some "case-1"))).indexed (some "case-2") "ann" =
        .ok [⟨1.0, record "case-2" "Ben"⟩] := by
  intro e record st
  refine ⟨by decide, by cbv, ?_⟩
  have written : (st.next (.rebuild e (some "case-1"))).searchText? "a" = some "ann" := by
    have text : e.indexText? (st.held "case-1") "a" = some "ann" := by decide +kernel
    rw [searchText?_rebuild, text, Option.some_or]
  -- What was written for Ann is all that the index knows of Ben.
  obtain ⟨texts, now⟩ := st.next_eq_withTexts (.rebuild e (some "case-1"))
  rw [now] at written ⊢
  have ben : st.scope? (some "case-2") = some [record "case-2" "Ben"] := by cbv
  have inScope : (st.withTexts texts).scope? (some "case-2") = some [record "case-2" "Ben"] := ben
  have covered : (st.withTexts texts).Covers [record "case-2" "Ben"] := by
    refine ⟨List.cons_ne_nil _ _, fun r mem => ?_⟩
    rw [List.mem_singleton.mp mem, written, Option.isSome_some]
  have share : SearchText.share (SearchText.wordsOf "ann") "ann" = 1.0 := by decide +kernel
  rw [indexed_of_scope? inScope, indexHits_of_covers covered, List.map_singleton, written,
    Option.getD_some, share]

end Store

end Dossier
