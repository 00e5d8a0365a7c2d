import Dossier.Proofs.Match.Grade
import Dossier.Proofs.Match.Standing
import Dossier.Proofs.Match.Visibility
import Dossier.Proofs.Profile.Texts

/-!
Highlights of what matches. A text that matches has a highlight of its own as long as the end of its
snippet is a position of 64 bits, so that the texts that match can be told from their highlights.
-/

namespace Dossier

namespace Text

variable {needle cs : List Char}

theorem add_length_le_of_occurrence? {i : Nat} (found : occurrence? needle cs = some i) :
    i + needle.length ≤ cs.length := by
  induction cs generalizing i with
  | nil =>
    rw [occurrence?, Option.ite_none_right_eq_some, List.isEmpty_iff] at found
    obtain ⟨rfl, here⟩ := found
    cases here
    exact Nat.le_refl 0
  | cons c rest ih =>
    rw [occurrence?] at found
    by_cases begins : needle.isPrefixOf (c :: rest) = true
    · rw [if_pos begins] at found
      cases found
      have inside := (List.isPrefixOf_iff_prefix.mp begins).length_le
      omega
    · rw [if_neg begins] at found
      obtain ⟨j, later, rfl⟩ := Option.map_eq_some_iff.mp found
      have inside := ih later
      rw [List.length_cons]
      omega

end Text

namespace Snippet

variable {text needle : List Char} {context : Nat}

/-- The end of every window around a part of the text is a position of 64 bits. -/
def Fits (context : Nat) (text : List Char) : Prop := text.length + context < UInt64.size

instance : Decidable (Fits context text) := inferInstanceAs (Decidable (_ < _))

theorem add_length_le_of_find? {i : Nat} (found : find? text needle = some i) :
    i + needle.length ≤ text.length := by
  rw [find?, Option.ite_none_left_eq_some] at found
  have inside := Text.add_length_le_of_occurrence? found.2
  rwa [Text.length_fold, Text.length_fold] at inside

/-- The end of the window around the first occurrence passes 64 bits. -/
def Overflows (text needle : List Char) (context : Nat) : Prop :=
  ∃ i, find? text needle = some i ∧ UInt64.size ≤ i + needle.length + context

theorem not_overflows_of_fits (fits : Fits context text) : ¬Overflows text needle context := by
  rintro ⟨i, found, long⟩
  have inside := add_length_le_of_find? found
  unfold Fits at fits
  omega

theorem marked?_of_find? {i : Nat} (found : find? text needle = some i)
    (short : ¬Overflows text needle context) :
    marked? text needle context = some (window text i needle.length context) := by
  have fits : i + needle.length + context < UInt64.size := by
    by_contra long
    exact short ⟨i, found, Nat.not_lt.mp long⟩
  rw [marked?, found]
  exact if_pos fits

theorem isSome_marked? (short : ¬Overflows text needle context)
    (found : (find? text needle).isSome = true) : (marked? text needle context).isSome = true := by
  obtain ⟨i, found⟩ := Option.isSome_iff_exists.mp found
  rw [marked?_of_find? found short, Option.isSome_some]

end Snippet

namespace Pattern

variable {p : Pattern} {context : Nat}

theorem isSome_find?_of_plainGrade {needle text : List Char}
    (graded : (plainGrade (Text.fold needle) (Text.fold text)).isMatch = true) :
    (Snippet.find? text needle).isSome = true := by
  obtain ⟨filled, part⟩ := isMatch_plainGrade_iff.mp graded
  have notEmpty : ¬needle.isEmpty = true := by
    intro empty
    rw [List.isEmpty_iff.mp empty] at filled
    exact filled rfl
  rw [Snippet.find?, if_neg notEmpty]
  exact Text.isSome_occurrence?_iff.mpr part

theorem isMatch_plainGrade_of_whole {s text : String}
    (graded : ((whole s).grade text).isMatch = true) :
    (plainGrade (Text.fold s.toList) (Text.fold text.toList)).isMatch = true := by
  rw [grade_phrase_eq] at graded
  split at graded
  · rename_i same
    rw [isMatch_plainGrade_iff, same.2]
    exact ⟨same.1, List.infix_rfl⟩
  · cases graded

def Overflows (p : Pattern) (context : Nat) (text : String) : Prop :=
  (∀ s, p ≠ .glob s) ∧ Snippet.Overflows text.toList p.source.toList context

theorem not_overflows_of_fits {text : String} (fits : Snippet.Fits context text.toList) :
    ¬p.Overflows context text :=
  fun long => Snippet.not_overflows_of_fits fits long.2

theorem isSome_highlight? {text : String} (short : ¬p.Overflows context text)
    (graded : (p.grade text).isMatch = true) : (p.highlight? context text).isSome = true := by
  cases p with
  | whole s =>
    rw [highlight?, Option.isSome_map]
    exact Snippet.isSome_marked? (fun long => short ⟨by simp, long⟩)
      (isSome_find?_of_plainGrade (isMatch_plainGrade_of_whole graded))
  | part s =>
    rw [highlight?, Option.isSome_map]
    exact Snippet.isSome_marked? (fun long => short ⟨by simp, long⟩)
      (isSome_find?_of_plainGrade graded)
  | glob s => rfl

def picks (p : Pattern) (texts : List String) : List String :=
  texts.filter fun t => (p.grade t).isMatch

theorem mem_picks_iff {texts : List String} {t : String} :
    t ∈ p.picks texts ↔ t ∈ texts ∧ (p.grade t).isMatch = true :=
  List.mem_filter

theorem outcome_eq (p : Pattern) (highlight : Bool) (context : Nat) (texts : List String) :
    p.outcome highlight context texts =
      ⟨Grade.best ((p.picks texts).map p.grade),
        if highlight then (p.picks texts).filterMap (p.highlight? context) else []⟩ := by
  have hits : (texts.map fun t => (t, p.grade t)).filter (·.2.isMatch) =
      (p.picks texts).map fun t => (t, p.grade t) := List.filter_map
  rw [outcome, hits, List.filterMap_map, Grade.foldl_max, Grade.miss_max, List.map_map]
  rfl

theorem picks_ne_nil_of_isMatch {highlight : Bool} {texts : List String}
    (matched : (p.outcome highlight context texts).grade.isMatch = true) : p.picks texts ≠ [] := by
  intro none
  rw [outcome_eq, none] at matched
  cases matched

/-- No highlight of a text that matches is missing. -/
theorem highlights_outcome_of_not_overflows {texts : List String}
    (short : ∀ t ∈ p.picks texts, ¬p.Overflows context t) :
    (p.outcome true context texts).highlights.map some =
      (p.picks texts).map (p.highlight? context) := by
  rw [outcome_eq, if_pos rfl, List.map_filterMap_some_eq_filter_map_isSome, List.filter_eq_self]
  intro shown mem
  obtain ⟨t, picked, rfl⟩ := List.mem_map.mp mem
  exact isSome_highlight? (short t picked) (mem_picks_iff.mp picked).2

theorem highlights_outcome {texts : List String}
    (fits : ∀ t ∈ texts, Snippet.Fits context t.toList) :
    (p.outcome true context texts).highlights.map some =
      (p.picks texts).map (p.highlight? context) := by
  apply highlights_outcome_of_not_overflows
  intro t picked
  exact not_overflows_of_fits (fits t (mem_picks_iff.mp picked).1)

theorem length_highlights_outcome {texts : List String}
    (fits : ∀ t ∈ texts, Snippet.Fits context t.toList) :
    (p.outcome true context texts).highlights.length = (p.picks texts).length := by
  have lengths := congrArg List.length (highlights_outcome (p := p) fits)
  rw [List.length_map, List.length_map] at lengths
  exact lengths

end Pattern

def Target.texts : Target → List String
  | .record r => r.profile.texts
  | .leaf _ v => v.texts

/-- The end of every snippet is a position of 64 bits. -/
def Target.Fits (context : Nat) (t : Target) : Prop :=
  ∀ text ∈ t.texts, Snippet.Fits context text.toList

instance (context : Nat) (t : Target) : Decidable (t.Fits context) :=
  inferInstanceAs (Decidable (∀ text ∈ t.texts, Snippet.Fits context text.toList))

namespace Target

variable {t : Target} {text : String} {c : String × Value}

theorem mem_texts_of_occurrences {field : String} (mem : c ∈ t.occurrences field)
    (inside : text ∈ c.2.texts) : text ∈ t.texts := by
  cases t with
  | record r => exact Profile.mem_texts_of_occurrences mem inside
  | leaf path v =>
    unfold occurrences at mem
    dsimp only at mem
    split at mem
    · rw [List.mem_singleton] at mem
      subst mem
      exact inside
    · cases mem

theorem exists_field_of_mem_candidates {fields : List String} (mem : c ∈ t.candidates fields) :
    ∃ field, c ∈ t.occurrences field := by
  cases t with
  | record r =>
    obtain ⟨field, -, mem⟩ := List.mem_flatMap.mp mem
    exact ⟨field, mem⟩
  | leaf path v =>
    obtain rfl := List.mem_singleton.mp mem
    have own : (Target.leaf path v).occurrences path = [(path, v)] := by simp [occurrences]
    exact ⟨path, own ▸ List.mem_singleton_self _⟩

theorem mem_texts_of_candidates {fields : List String} (mem : c ∈ t.candidates fields)
    (inside : text ∈ c.2.texts) : text ∈ t.texts := by
  obtain ⟨field, mem⟩ := exists_field_of_mem_candidates mem
  exact mem_texts_of_occurrences mem inside

theorem Fits.leaf {context : Nat} {r : Record} {leaf : String × Scalar}
    (fits : (Target.record r).Fits context) (listed : leaf ∈ r.profile.leaves) :
    (Target.leaf leaf.1 leaf.2).Fits context :=
  fun text inside => fits text (Profile.mem_texts_of_leaves listed inside)

end Target

namespace Plan

def Reports (s : Setting) (cs : List (String × Value)) (hit : Hit) : Prop :=
  ∃ c ∈ cs, ∃ p : Pattern, (p.outcome s.highlight s.context c.2.texts).grade.isMatch = true ∧
    hit = ⟨c.1, (p.outcome s.highlight s.context c.2.texts).highlights⟩

variable {t : Target} {s : Setting} {cs : List (String × Value)} {hit : Hit}

theorem reports_of_mem_evaluateScoped {p : Pattern} (mem : hit ∈ (evaluateScoped p s cs).hits) :
    Reports s cs hit := by
  induction cs with
  | nil => cases mem
  | cons c rest ih =>
    rw [evaluateScoped] at mem
    split at mem
    · rename_i matched
      exact ⟨c, List.mem_cons_self, p, matched, List.mem_singleton.mp mem⟩
    · obtain ⟨d, later, q, matched, same⟩ := ih mem
      exact ⟨d, List.mem_cons_of_mem c later, q, matched, same⟩

theorem reports_of_mem_evaluateUnscoped {p : Pattern}
    (mem : hit ∈ (evaluateUnscoped p s cs).hits) : Reports s cs hit := by
  rcases origin_of_mem_addHits mem with old | ⟨o, found, same⟩
  · cases old
  · obtain ⟨candidate, matched⟩ := List.mem_filter.mp found
    obtain ⟨c, offered, rfl⟩ := List.mem_map.mp candidate
    exact ⟨c, offered, p, matched, same⟩

/-- Every hit of a plan reports something that a field means and that matches. -/
theorem reports_of_mem_run {p : Plan} (mem : hit ∈ (p.run t s).hits) :
    ∃ field, Reports s (t.occurrences field) hit := by
  induction p with
  | term field pattern =>
    cases field with
    | none =>
      obtain ⟨c, candidate, matched⟩ := reports_of_mem_evaluateUnscoped mem
      obtain ⟨field, meant⟩ := Target.exists_field_of_mem_candidates candidate
      exact ⟨field, c, meant, matched⟩
    | some field => exact ⟨field, reports_of_mem_evaluateScoped mem⟩
  | not p _ => cases mem
  | and p q hp hq | or p q hp hq =>
    rcases List.mem_append.mp mem with mem | mem
    · exact hp mem
    · exact hq mem

theorem highlights_ne_nil {p : Plan} (fits : t.Fits s.context) (on : s.highlight = true)
    (mem : hit ∈ (p.run t s).hits) : hit.highlights ≠ [] := by
  obtain ⟨field, c, meant, q, matched, rfl⟩ := reports_of_mem_run mem
  have filled := List.length_pos_iff.mpr (Pattern.picks_ne_nil_of_isMatch matched)
  rw [on, ← List.length_pos_iff, Pattern.length_highlights_outcome]
  · exact filled
  · exact fun text inside => fits text (Target.mem_texts_of_occurrences meant inside)

end Plan

end Dossier
