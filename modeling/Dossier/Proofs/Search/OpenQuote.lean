import Dossier.Proofs.Query.Errors
import Dossier.Proofs.Text.Quote
import Dossier.Search.Engine

/-!
The quote that a parse reports as open. A text is parsed in normal form KC and without the blanks
around it, and the position is counted there. In the text as it was given the quote is the last one,
ASCII or wide, and it has another position if what stands before it changes its length.
-/

namespace Dossier

def IsBeforeLastQuote (before cs : List Char) : Prop :=
  ∃ q after, cs = before ++ q :: after ∧ Text.IsQuote q ∧ ∀ c ∈ after, ¬Text.IsQuote c

def PointsAtQuote (cs : List Char) (position : Nat) : Prop :=
  ∃ c, cs[position]? = some c ∧ Text.IsQuote c

section

variable {before cs : List Char}

theorem exists_isBeforeLastQuote (quoted : ∃ c ∈ cs, Text.IsQuote c) :
    ∃ before, IsBeforeLastQuote before cs := by
  induction cs with
  | nil =>
    obtain ⟨c, mem, -⟩ := quoted
    cases mem
  | cons c rest ih =>
    by_cases later : ∃ d ∈ rest, Text.IsQuote d
    · obtain ⟨before, q, after, rfl, quote, free⟩ := ih later
      exact ⟨c :: before, q, after, rfl, quote, free⟩
    · obtain ⟨d, mem, quote⟩ := quoted
      rcases List.mem_cons.mp mem with rfl | mem
      · exact ⟨[], d, rest, rfl, quote, fun e mem quote => later ⟨e, mem, quote⟩⟩
      · exact absurd ⟨d, mem, quote⟩ later

/-- The last quotation mark stays the last. It stands where the text before it ends, which is
brought into normal form by itself and loses the blanks at its start. -/
theorem IsBeforeLastQuote.isLastQuote_normal (last : IsBeforeLastQuote before cs) :
    Query.Lexeme.IsLastQuote 0 (Text.trimStart (Text.nfkc before)).length
      (Text.trim (Text.nfkc cs)) := by
  obtain ⟨q, after, rfl, quote, free⟩ := last
  rw [Text.nfkc_append quote, Text.trim_append (by decide)]
  refine ⟨_, _, rfl, fun mem => ?_, (Nat.zero_add _).symm⟩
  have inside : '"' ∈ (Text.nfkc after).reverse :=
    (Text.trimStart_suffix _).subset (List.mem_reverse.mp mem)
  exact Text.not_mem_nfkc free (List.mem_reverse.mp inside)

theorem IsBeforeLastQuote.pointsAtQuote_iff (last : IsBeforeLastQuote before cs) (p : Nat) :
    PointsAtQuote cs p ↔ p = before.length ∨ PointsAtQuote before p := by
  obtain ⟨q, after, rfl, quote, free⟩ := last
  unfold PointsAtQuote
  rcases Nat.lt_trichotomy p before.length with inside | rfl | past
  · rw [List.getElem?_append_left inside]
    simp [inside.ne]
  · simp [quote]
  · have short : before[p]? = none := List.getElem?_eq_none past.le
    obtain ⟨k, rfl⟩ : ∃ k, p = before.length + (k + 1) := ⟨p - before.length - 1, by omega⟩
    rw [short, List.getElem?_append_right (by omega), Nat.add_sub_cancel_left,
      List.getElem?_cons_succ]
    constructor
    · rintro ⟨c, found, quote⟩
      exact absurd quote (free c (List.mem_of_getElem? found))
    · rintro (here | ⟨c, found, -⟩)
      · omega
      · cases found

end

section

variable (text : String)

theorem toList_normalizeText :
    (normalizeText text).toList = Text.trim (Text.nfkc text.toList) := by
  rw [normalizeText, String.toList_ofList]

/-- No quotation mark gets lost on the way to the parse. -/
theorem count_normalizeText :
    (normalizeText text).toList.count '"' = text.toList.countP fun c => Text.IsQuote c := by
  rw [toList_normalizeText, Text.count_trim (by decide), Text.count_nfkc]

end

namespace Engine

theorem error_parse_eq_unterminatedQuote_iff (text : String) (p : Nat) :
    (parse text).error = some (.unterminatedQuote p) ↔
      Odd (text.toList.countP fun c => Text.IsQuote c) ∧
        Query.Lexeme.IsLastQuote 0 p (Text.trim (Text.nfkc text.toList)) := by
  rw [parse, Query.error_parse_eq_unterminatedQuote_iff, Query.Lexeme.openQuote_scan_eq_some_iff,
    count_normalizeText, toList_normalizeText]

/-- Where an open quote is reported. There is one just if the quotation marks of the text, ASCII or
wide, are odd in number, and it is the last of them. The position is that of a quotation mark in the
text that is parsed. In the text as it was given it is right just if what stands before the quote is
as long there, or if an earlier quotation mark happens to stand at it. -/
theorem reported_quote_position (text : String) (p : Nat) :
    ((parse text).error = some (.unterminatedQuote p) ↔
      Odd (text.toList.countP fun c => Text.IsQuote c) ∧
        ∃ before, IsBeforeLastQuote before text.toList ∧
          p = (Text.trimStart (Text.nfkc before)).length) ∧
    ((parse text).error = some (.unterminatedQuote p) →
      (normalizeText text).toList[p]? = some '"' ∧
        ∀ before, IsBeforeLastQuote before text.toList →
          (PointsAtQuote text.toList p ↔ p = before.length ∨ PointsAtQuote before p)) := by
  constructor
  · rw [error_parse_eq_unterminatedQuote_iff]
    refine and_congr_right fun odd => ?_
    constructor
    · intro last
      have filled : 0 < text.toList.countP fun c => Text.IsQuote c := by
        obtain ⟨k, number⟩ := odd
        omega
      have quoted : ∃ c ∈ text.toList, Text.IsQuote c := by
        simpa using List.countP_pos_iff.mp filled
      obtain ⟨before, beforeLast⟩ := exists_isBeforeLastQuote quoted
      exact ⟨before, beforeLast, last.unique beforeLast.isLastQuote_normal⟩
    · rintro ⟨before, beforeLast, rfl⟩
      exact beforeLast.isLastQuote_normal
  · intro reported
    rw [error_parse_eq_unterminatedQuote_iff] at reported
    obtain ⟨-, front, rest, whole, -, rfl⟩ := reported
    refine ⟨?_, fun before last => last.pointsAtQuote_iff _⟩
    rw [toList_normalizeText, whole]
    simp

example : (parse "ﬁ \"x").error = some (.unterminatedQuote 3) := by decide +kernel

/-- The blanks before an open quote are not counted: the position reported is that of the first of
them. -/
theorem open_quote_misplaced_after_blanks :
    let text := "  \"open"
    (parse text).error = some (.unterminatedQuote 0) ∧ text.toList[0]? = some ' ' ∧
      ¬PointsAtQuote text.toList 0 := by
  intro text
  have first : text.toList[0]? = some ' ' := by decide +kernel
  refine ⟨by decide +kernel, first, ?_⟩
  rintro ⟨c, found, quote⟩
  rw [first] at found
  cases found
  exact absurd quote (by decide +kernel)

end Engine

end Dossier
