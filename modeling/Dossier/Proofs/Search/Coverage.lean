import Dossier.Proofs.Match.Conjunction
import Dossier.Proofs.Match.Plain
import Dossier.Proofs.Search.Rebuild
import Dossier.Proofs.Search.Share
import Dossier.Proofs.Text.Lower

/-!
What the index says of the records that match. A record matches plain words if each of them stands
in one of its texts up to case, and the index counts a word if its lower case stands in that of a
text. The two agree but for two letters: a capital sigma, whose lower case depends on the letters
around it, and a dotted capital I, whose lower case is two characters.
-/

namespace Dossier

namespace SearchText

def textsOf (r : Record) (fields : List String) : List String :=
  (fields.flatMap r.profile.occurrences).flatMap fun c => c.2.texts

def holds (texts : List String) (w : List Char) : Bool :=
  texts.any fun t => Text.contains (Text.lowercase (Text.trim t.toList)) (Text.lowercase w)

/-- What the index and an evaluation say of a record with these texts. -/
structure Tells (words : List (List Char)) (texts : List String) (matched : Bool)
    (score : Float) : Prop where
  found : matched = true ↔ ∀ w ∈ words, ∃ t ∈ texts, Text.HasPart Text.foldChar w t.toList
  share : score = Float.ofNat (words.countP (holds texts)) / Float.ofNat words.length
  all : (∀ w ∈ words, holds texts w = true) → score = 1.0
  agree : (∀ w ∈ words, ∀ t ∈ texts, Text.IsSteadyIn w t.toList) → matched = true → score = 1.0

variable {r : Record} {fields texts : List String} {w : List Char} {words : List (List Char)}

theorem holds_iff : holds texts w = true ↔
    ∃ t ∈ texts, Text.lowercase w <:+: Text.lowercase (Text.trim t.toList) := by
  simp only [holds, List.any_eq_true, Text.contains_iff_infix]

theorem toList_ofRecord : (ofRecord r fields).toList = [' '].intercalate
    (((textsOf r fields).map fun t => Text.lowercase (Text.trim t.toList)).filter
      (!·.isEmpty)) := by
  have joined (parts : List (List Char)) :
      (" ".intercalate (parts.map String.ofList)).toList = [' '].intercalate parts := by
    rw [String.toList_intercalate, List.map_map]
    have same : String.toList ∘ String.ofList = id := funext fun cs => String.toList_ofList
    rw [same, List.map_id]
    rfl
  exact joined _

theorem contains_ofRecord (word : Text.IsWord w) :
    Text.contains (ofRecord r fields).toList (Text.lowercase w) =
      holds (textsOf r fields) w := by
  have lower := Text.isWord_lowercase word
  rw [Bool.eq_iff_iff, Text.contains_iff_infix, toList_ofRecord, lower.infix_intercalate_iff,
    holds_iff]
  constructor
  · rintro ⟨part, mem, inside⟩
    obtain ⟨t, listed, rfl⟩ := List.mem_map.mp (List.mem_of_mem_filter mem)
    exact ⟨t, listed, inside⟩
  · rintro ⟨t, listed, inside⟩
    refine ⟨_, List.mem_filter.mpr ⟨List.mem_map_of_mem listed, ?_⟩, inside⟩
    -- A text that has a word is not empty.
    rw [Bool.not_eq_true', List.isEmpty_eq_false_iff]
    intro empty
    rw [empty, List.infix_nil] at inside
    exact lower.1 inside

theorem share_ofRecord {query : String} (filled : Text.words query.toList ≠ []) :
    share (wordsOf query) (ofRecord r fields) =
      Float.ofNat ((Text.words query.toList).countP (holds (textsOf r fields))) /
        Float.ofNat (Text.words query.toList).length := by
  have nonempty : ¬(wordsOf query).isEmpty = true := by
    rw [List.isEmpty_iff, wordsOf, List.map_eq_nil_iff]
    exact filled
  have count : (wordsOf query).countP (Text.contains (ofRecord r fields).toList) =
      (Text.words query.toList).countP (holds (textsOf r fields)) := by
    rw [wordsOf, List.countP_map]
    apply List.countP_congr
    intro w mem
    rw [Function.comp_apply, contains_ofRecord (Text.isWord_of_mem_words mem)]
  rw [share, if_neg nonempty, count, wordsOf, List.length_map]

end SearchText

namespace Query

variable {r : Record} {s : Setting} {text : String} {expr : Expr} {w : List Char}

theorem matched_word_iff (filled : w ≠ []) (literal : ∀ c ∈ w, isWildcard c = false) :
    ((Expr.term (Term.ofWord w)).evaluation (.record r) s).matched = true ↔
      ∃ t ∈ SearchText.textsOf r s.fields, Text.HasPart Text.foldChar w t.toList := by
  have evaluated : (Expr.term (Term.ofWord w)).evaluation (.record r) s =
      Plan.evaluateUnscoped (wordPattern w) s (s.fields.flatMap r.profile.occurrences) := rfl
  have grade (t : String) : ((wordPattern w).grade t).isMatch = true ↔
      Text.HasPart Text.foldChar w t.toList := by
    have word := @Pattern.isMatch_word_iff (String.ofList w) t
    rw [String.toList_ofList] at word
    exact word literal filled
  rw [evaluated, Plan.matched_evaluateUnscoped_iff]
  constructor
  · intro nonempty
    obtain ⟨o, mem⟩ := List.exists_mem_of_ne_nil _ nonempty
    obtain ⟨listed, matched⟩ := List.mem_filter.mp mem
    obtain ⟨c, candidate, rfl⟩ := List.mem_map.mp listed
    obtain ⟨t, text, found⟩ := Pattern.isMatch_outcome_iff.mp matched
    exact ⟨t, List.mem_flatMap.mpr ⟨c, candidate, text⟩, (grade t).mp found⟩
  · rintro ⟨t, mem, found⟩
    obtain ⟨c, candidate, text⟩ := List.mem_flatMap.mp mem
    have matched : ((wordPattern w).outcome s.highlight s.context c.2.texts).grade.isMatch = true :=
      Pattern.isMatch_outcome_iff.mpr ⟨t, text, (grade t).mpr found⟩
    exact List.ne_nil_of_mem (List.mem_filter.mpr ⟨List.mem_map_of_mem candidate, matched⟩)

theorem matched_freeText_record_iff (asked : freeText text = some expr)
    (plain : containsWildcard text = false) :
    (expr.evaluation (.record r) s).matched = true ↔ ∀ w ∈ Text.words text.toList,
      ∃ t ∈ SearchText.textsOf r s.fields, Text.HasPart Text.foldChar w t.toList := by
  have each : ∀ w ∈ Text.words text.toList,
      (((Expr.term (Term.ofWord w)).evaluation (.record r) s).matched = true ↔
        ∃ t ∈ SearchText.textsOf r s.fields, Text.HasPart Text.foldChar w t.toList) := by
    intro w mem
    obtain ⟨filled, inside⟩ := Text.mem_of_mem_words mem
    apply matched_word_iff filled
    intro c inWord
    have absent := List.any_eq_false.mp plain c (inside c inWord).2
    simpa using absent
  obtain ⟨w, ws, words, rfl⟩ := exists_words_freeText asked
  rw [words] at each ⊢
  rw [Expr.evaluation_foldl_and, Evaluation.matched_foldl_and, List.map_map]
  have terms : (Expr.term (Term.ofWord w)).evaluation (.record r) s ::
      ws.map ((fun e : Expr => e.evaluation (.record r) s) ∘ fun w => .term (Term.ofWord w)) =
        (w :: ws).map fun w => (Expr.term (Term.ofWord w)).evaluation (.record r) s := rfl
  rw [terms, List.forall_mem_map]
  exact forall₂_congr each

end Query

namespace SearchText

variable {r : Record} {s : Setting} {text : String} {expr : Query.Expr}

/-- The share of a record in the index beside the evaluation of the same words. -/
theorem tells (asked : Query.freeText text = some expr)
    (plain : Query.containsWildcard text = false)
    (fits : (Text.words text.toList).length < UInt64.size) :
    Tells (Text.words text.toList) (textsOf r s.fields)
      (expr.evaluation (.record r) s).matched
      (SearchText.share (wordsOf text) (ofRecord r s.fields)) := by
  have filled : Text.words text.toList ≠ [] := by
    obtain ⟨w, ws, words, -⟩ := Query.exists_words_freeText asked
    rw [words]
    exact List.cons_ne_nil w ws
  have all (held : ∀ w ∈ Text.words text.toList, holds (textsOf r s.fields) w = true) :
      SearchText.share (wordsOf text) (ofRecord r s.fields) = 1.0 := by
    have count := List.countP_eq_length.mpr held
    rw [share_ofRecord filled, count]
    exact Share.ofNat_div_self (List.length_pos_of_ne_nil filled) fits
  have found := Query.matched_freeText_record_iff (r := r) (s := s) asked plain
  refine ⟨found, share_ofRecord filled, all, ?_⟩
  intro steady matched
  apply all
  intro w mem
  obtain ⟨t, listed, part⟩ := found.mp matched w mem
  have word := Text.isWord_of_mem_words mem
  exact holds_iff.mpr ⟨t, listed, word.lowercase_infix (steady w mem t listed) part⟩

end SearchText

namespace Store

variable {records : List Record} {r : Record}

def HasOnly (hits : List IndexHit) (r : Record) (score : Float) : Prop :=
  ∀ h, h ∈ hits ∧ h.record.id = r.id ↔ h = ⟨score, r⟩

theorem hasOnly_map (distinct : (records.map (·.id)).Nodup) (mem : r ∈ records)
    (score : Record → Float) :
    HasOnly (records.map fun r => ⟨score r, r⟩) r (score r) := by
  intro h
  constructor
  · rintro ⟨hit, same⟩
    obtain ⟨s, listed, rfl⟩ := List.mem_map.mp hit
    rw [List.inj_on_of_nodup_map distinct listed mem same]
  · rintro rfl
    exact ⟨List.mem_map_of_mem mem, rfl⟩

/-- After a rebuild of all collections the index has one hit for each record, with the share of the
words whose lower case stands in that of a text. The share is one for a record that the words match,
if neither they nor what they find there has a capital sigma or a dotted capital I. The words are as
many as a machine word can count. -/
theorem index_covers_matches (e : Engine) (st : Store) {text : String} {expr : Query.Expr}
    (distinct : (st.allRecords.map (·.id)).Nodup)
    (asked : Query.freeText (normalizeText text) = some expr)
    (plain : Query.containsWildcard (normalizeText text) = false)
    (fits : (Text.words (normalizeText text).toList).length < UInt64.size) {r : Record}
    (mem : r ∈ st.allRecords) (highlight : Bool) (context : Nat) :
    ∃ hits score,
      (st.next (.rebuild e none)).indexed none (normalizeText text) = .ok hits ∧
      hits.map (·.record) = st.allRecords ∧ HasOnly hits r score ∧
      SearchText.Tells (Text.words (normalizeText text).toList)
        (SearchText.textsOf r e.schema.searchable)
        (expr.evaluation (.record r) ⟨e.schema.searchable, highlight, context⟩).matched score := by
  have answer := indexed_rebuild_all e distinct (List.ne_nil_of_mem mem) (normalizeText text)
  refine ⟨_, _, answer, ?_, hasOnly_map distinct mem _, ?_⟩
  · rw [List.map_map]
    exact List.map_id _
  · exact SearchText.tells (s := ⟨e.schema.searchable, highlight, context⟩) asked plain fits

/-- Two words in another case, one of them with an umlaut, in two texts of a record. -/
theorem index_covers_matches_umlaut :
    let e : Engine := ⟨.default, .off, .default, 50⟩
    let anna : Record := ⟨"case-1", "a", "profile",
      ⟨[("core", .mapping [("aliases", .sequence [.scalar (.text "LEE, A.")]),
        ("name", .scalar (.text " Änna Liddell"))])], by decide⟩, none⟩
    let ben : Record := ⟨"case-2", "b", "profile",
      ⟨[("core", .mapping [("name", .scalar (.text "Ben"))])], rfl⟩, none⟩
    let st := Store.ofCollections (.ofList [("case-1", [anna]), ("case-2", [ben])])
    let expr := Query.Expr.and (.term ⟨none, "lee", false⟩) (.term ⟨none, "ÄNN", false⟩)
    (st.allRecords.map (·.id)).Nodup ∧ Query.freeText (normalizeText "lee ÄNN") = some expr ∧
      Query.containsWildcard (normalizeText "lee ÄNN") = false ∧
      (Text.words (normalizeText "lee ÄNN").toList).length < UInt64.size ∧
      anna ∈ st.allRecords ∧
      ∃ hits, (st.next (.rebuild e none)).indexed none (normalizeText "lee ÄNN") = .ok hits ∧
        HasOnly hits anna 1.0 := by
  intro e anna ben st expr
  have distinct : (st.allRecords.map (·.id)).Nodup := by decide +kernel
  have asked : Query.freeText (normalizeText "lee ÄNN") = some expr := by decide +kernel
  have plain : Query.containsWildcard (normalizeText "lee ÄNN") = false := by decide +kernel
  have split : Text.words (normalizeText "lee ÄNN").toList = ["lee".toList, "ÄNN".toList] := by
    decide +kernel
  have fits : (Text.words (normalizeText "lee ÄNN").toList).length < UInt64.size := by
    rw [split]
    decide
  have records : st.allRecords = [anna, ben] := by cbv
  have mem : anna ∈ st.allRecords := by rw [records]; exact List.mem_cons_self
  have matched : (expr.evaluation (.record anna) ⟨e.schema.searchable, false, 50⟩).matched =
      true := by decide +kernel
  have steady : ∀ w ∈ ["lee".toList, "ÄNN".toList],
      ∀ t ∈ SearchText.textsOf anna e.schema.searchable,
      ((w ++ t.toList).all fun c => decide (Text.IsSteady c)) = true := by decide +kernel
  refine ⟨distinct, asked, plain, fits, mem, ?_⟩
  obtain ⟨hits, score, answer, -, only, tells⟩ :=
    index_covers_matches e st distinct asked plain fits mem false 50
  rw [split] at tells
  have one : score = 1.0 := by
    refine tells.agree ?_ matched
    intro w inWords t listed
    exact Text.isSteadyIn_of_all (steady w inWords t listed)
  exact ⟨hits, answer, one ▸ only⟩

/-- A sigma at the end of a word has a lower case of its own, so that the index does not find the
word inside a longer one that an evaluation finds it in. -/
theorem final_sigma_not_covered :
    let e : Engine := ⟨.default, .off, .default, 50⟩
    let costas : Record := ⟨"case-1", "a", "profile",
      ⟨[("core", .mapping [("name", .scalar (.text "ΚΩΣΤΑΣ"))])], rfl⟩, none⟩
    let st := Store.ofCollections (.ofList [("case-1", [costas])])
    let expr := Query.Expr.term ⟨none, "ΚΩΣ", false⟩
    (st.allRecords.map (·.id)).Nodup ∧ Query.freeText (normalizeText "ΚΩΣ") = some expr ∧
      Query.containsWildcard (normalizeText "ΚΩΣ") = false ∧ costas ∈ st.allRecords ∧
      (expr.evaluation (.record costas) ⟨e.schema.searchable, true, 50⟩).matched = true ∧
      (st.next (.rebuild e none)).indexed none (normalizeText "ΚΩΣ") = .ok [⟨0.0, costas⟩] ∧
      (0.0 : Float) ≠ 1.0 := by
  intro e costas st expr
  have distinct : (st.allRecords.map (·.id)).Nodup := by decide +kernel
  have records : st.allRecords = [costas] := rfl
  have share : SearchText.share (SearchText.wordsOf (normalizeText "ΚΩΣ"))
      (SearchText.ofRecord costas e.schema.searchable) = 0.0 := by decide +kernel
  refine ⟨distinct, by decide +kernel, by decide +kernel, List.mem_cons_self, by decide +kernel,
    ?_, by decide +kernel⟩
  rw [indexed_rebuild_all e distinct (by rw [records]; exact List.cons_ne_nil _ _), records,
    List.map_singleton, share]

end Store

end Dossier
