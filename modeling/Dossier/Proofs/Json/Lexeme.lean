import Dossier.Json.Lexeme
import Dossier.Json.Writer

/-!
The text of a JSON value is scanned into the lexemes of the value, whatever the layout, as long as
its numbers are whole ones of 64 bits. Each kind of lexeme is scanned from its own text first; only
the end of a number depends on what stands after it.
-/

namespace Dossier

namespace Number

def IsWhole : Number → Prop
  | .whole n => -(signedLimit : Int) ≤ n ∧ n < limit
  | .double _ => False

theorem gather_append {n m : Nat} {cs : List Char} (taken : gather n cs = (m, 0))
    (ds : List Char) : gather n (cs ++ ds) = gather m ds := by
  induction cs generalizing n with
  | nil =>
    cases taken
    rfl
  | cons c rest ih =>
    simp only [gather, List.cons_append] at taken ⊢
    split
    · rename_i fits
      rw [if_pos fits] at taken
      exact ih taken
    · rename_i large
      rw [if_neg large] at taken
      cases taken

theorem value_digitChar : ∀ d < 10, d.digitChar.toNat - '0'.toNat = d := by decide

theorem gather_toDigits (n : Nat) (fits : n < limit) : gather 0 (Nat.toDigits 10 n) = (n, 0) := by
  induction n using Nat.strongRecOn with
  | ind n ih =>
    have last (q : Nat) (whole : 10 * q + n % 10 = n) :
        gather q [(n % 10).digitChar] = (n, 0) := by
      have value := value_digitChar (n % 10) (Nat.mod_lt n (by omega))
      rw [gather, value, whole, if_pos fits, gather]
    by_cases one : n < 10
    · have digit := last 0 (by omega)
      rwa [Nat.mod_eq_of_lt one, ← Nat.toDigits_of_lt_base one] at digit
    · rw [Nat.toDigits_of_base_le (by omega) (by omega),
        gather_append (ih (n / 10) (by omega) (by omega))]
      exact last (n / 10) (by omega)

theorem head?_toDigits (n : Nat) (positive : 0 < n) : (Nat.toDigits 10 n).head? ≠ some '0' := by
  induction n using Nat.strongRecOn with
  | ind n ih =>
    by_cases one : n < 10
    · rw [Nat.toDigits_of_lt_base one]
      have nonzero : ∀ d < 10, 0 < d → [d.digitChar].head? ≠ some '0' := by decide
      exact nonzero n one positive
    · rw [Nat.toDigits_of_base_le (by omega) (by omega)]
      intro zero
      rcases Option.or_eq_some_iff.mp (List.head?_append ▸ zero) with zero | ⟨empty, -⟩
      · exact ih (n / 10) (by omega) (by omega) zero
      · exact Nat.toDigits_ne_nil (List.head?_eq_none_iff.mp empty)

end Number

def Mark.char : Mark → Char
  | .openArray => '['
  | .closeArray => ']'
  | .openObject => '\x7b'
  | .closeObject => '\x7d'
  | .colon => ':'
  | .comma => ','

namespace Lexeme

def EndsNumber (rest : List Char) : Prop :=
  ∀ c, rest.head? = some c → c.isDigit = false ∧ c ≠ '.' ∧ c ≠ 'e' ∧ c ≠ 'E'

theorem takeWhile_isDigit {digits rest : List Char} (all : ∀ c ∈ digits, c.isDigit = true)
    (follows : EndsNumber rest) :
    (digits ++ rest).takeWhile Char.isDigit = digits ∧
      (digits ++ rest).dropWhile Char.isDigit = rest := by
  rw [List.takeWhile_append_of_pos all, List.dropWhile_append_of_pos all]
  cases rest with
  | nil => exact ⟨List.append_nil _, rfl⟩
  | cons c cs =>
    have other : ¬c.isDigit = true := by rw [(follows c rfl).1]; decide
    rw [List.takeWhile_cons_of_neg other, List.dropWhile_cons_of_neg other]
    exact ⟨List.append_nil _, rfl⟩

theorem splitFraction_of_endsNumber {rest : List Char} (follows : EndsNumber rest) :
    splitFraction rest = (none, rest) := by
  unfold splitFraction
  split
  · rename_i digits
    exact absurd rfl (follows '.' rfl).2.1
  · rfl

theorem splitExponent_of_endsNumber {rest : List Char} (follows : EndsNumber rest) :
    splitExponent rest = (none, rest) := by
  cases rest with
  | nil => rfl
  | cons c cs =>
    obtain ⟨-, -, small, large⟩ := follows c rfl
    simp [splitExponent, small, large]

/-- A whole number is read from its digits, of which the first is no needless zero. -/
theorem numberFrom_toDigits (n : Nat) (negative : Bool) {rest : List Char} (fits : n < Number.limit)
    (signed : negative = true → 0 < n ∧ n ≤ Number.signedLimit) (follows : EndsNumber rest) :
    numberFrom negative (Nat.toDigits 10 n ++ rest) =
      .complete (.number (.ok (.whole (if negative then -(n : Int) else n)))) rest := by
  have digits : ∀ c ∈ Nat.toDigits 10 n, c.isDigit = true :=
    fun c mem => Nat.isDigit_of_mem_toDigits (by omega) (by omega) mem
  obtain ⟨whole, after⟩ := takeWhile_isDigit digits follows
  have filled : (Nat.toDigits 10 n).isEmpty = false := by
    rw [List.isEmpty_eq_false_iff]
    exact Nat.toDigits_ne_nil
  have leading : (decide (1 < (Nat.toDigits 10 n).length) &&
      (Nat.toDigits 10 n).head? == some '0') = false := by
    by_cases one : n < 10
    · rw [Nat.toDigits_of_lt_base one]
      rfl
    · rw [beq_eq_false_iff_ne.mpr (Number.head?_toDigits n (by omega)), Bool.and_false]
  have value : Number.ofParts? negative (Nat.toDigits 10 n) none none =
      some (.whole (if negative then -(n : Int) else n)) := by
    have kept : (!negative || (decide (0 < n) && decide (n ≤ Number.signedLimit))) = true := by
      cases negative with
      | false => rfl
      | true => simpa using signed rfl
    simp [Number.ofParts?, Number.gather_toDigits n fits, kept]
  unfold numberFrom
  simp only [whole, after, splitFraction_of_endsNumber follows,
    splitExponent_of_endsNumber follows, filled, leading]
  simp [value]

theorem hex?_hexDigit :
    ∀ n < 0x20, hex? '0' '0' (Json.hexDigit (n / 16)) (Json.hexDigit (n % 16)) = some n := by
  decide

theorem textFrom_printable {c : Char} (notQuote : c ≠ '"') (notSlash : c ≠ '\\')
    (printable : ¬c.toNat < 0x20) (out rest : List Char) :
    textFrom out none false (c :: rest) = textFrom (c :: out) none false rest := by
  rw [textFrom]
  · rw [if_neg printable]
    rfl
  all_goals simp [notQuote, notSlash]

theorem textFrom_hex {a b c d : Char} {n : Nat} (code : hex? a b c d = some n)
    (high : isHighSurrogate n = false) (low : isLowSurrogate n = false) (out rest : List Char) :
    textFrom out none false ('\\' :: 'u' :: a :: b :: c :: d :: rest) =
      textFrom (Char.ofNat n :: out) none false rest := by
  rw [textFrom.eq_def]
  simp only [code, high, low, Bool.false_eq_true, if_false, Bool.or_false]

theorem textFrom_escape (c : Char) (out rest : List Char) :
    textFrom out none false (Json.escape c ++ rest) = textFrom (c :: out) none false rest := by
  unfold Json.escape
  split
  -- All others have an escape of two characters.
  case h_8 notQuote notSlash _ _ _ _ _ =>
    split
    · rename_i control
      have code := hex?_hexDigit c.toNat control
      have high : isHighSurrogate c.toNat = false := by
        simp [isHighSurrogate]
        omega
      have low : isLowSurrogate c.toNat = false := by
        simp [isLowSurrogate]
        omega
      have read := textFrom_hex code high low out rest
      rwa [Char.ofNat_toNat] at read
    · rename_i printable
      exact textFrom_printable notQuote notSlash printable out rest
  all_goals rfl

section Scan

variable {c : Char} {cs rest : List Char} {l : Lexeme}

theorem scan_of_complete (solid : isSpace c = false) (read : scanOne c cs = .complete l rest) :
    scan (c :: cs) = l :: scan rest := by
  rw [scan, if_neg (by rw [solid]; decide)]
  split
  · rename_i read'
    rw [read] at read'
    cases read'
    rfl
  · rename_i read'
    rw [read] at read'
    cases read'

theorem scan_space (space : isSpace c = true) : scan (c :: cs) = scan cs := by
  rw [scan, if_pos space]

theorem scan_mark (m : Mark) : scan (m.char :: rest) = .mark m :: scan rest := by
  cases m
  all_goals exact scan_of_complete (by decide) rfl

theorem scan_comma : scan (",".toList ++ rest) = .mark .comma :: scan rest := scan_mark .comma

theorem scan_null : scan ("null".toList ++ rest) = .null :: scan rest := by
  change scan ('n' :: ['u', 'l', 'l'] ++ rest) = _
  exact scan_of_complete (by decide) rfl

theorem scan_bool (b : Bool) :
    scan ((if b then "true" else "false").toList ++ rest) = .bool b :: scan rest := by
  cases b with
  | false =>
    change scan ('f' :: ['a', 'l', 's', 'e'] ++ rest) = _
    exact scan_of_complete (by decide) rfl
  | true =>
    change scan ('t' :: ['r', 'u', 'e'] ++ rest) = _
    exact scan_of_complete (by decide) rfl

theorem scan_lineBreak (pretty : Bool) (depth : Nat) :
    scan ((Json.lineBreak pretty depth).toList ++ cs) = scan cs := by
  have indent (n : Nat) : scan (List.replicate n ' ' ++ cs) = scan cs := by
    induction n with
    | zero => rfl
    | succ n ih => rw [List.replicate_succ, List.cons_append, scan_space (by decide), ih]
  cases pretty with
  | false => rfl
  | true =>
    rw [Json.lineBreak, if_pos rfl, String.toList_ofList, List.cons_append,
      scan_space (by decide), indent]

theorem scan_quoted (s : String) :
    scan ((Json.quoted s).toList ++ rest) = .text (.ok s) :: scan rest := by
  have inside (cs out : List Char) :
      textFrom out none false (cs.flatMap Json.escape ++ '"' :: rest) =
        .complete (.text (.ok (String.ofList (out.reverse ++ cs)))) rest := by
    induction cs generalizing out with
    | nil => simp [textFrom]
    | cons c cs ih =>
      rw [List.flatMap_cons, List.append_assoc, textFrom_escape, ih, List.reverse_cons,
        List.append_assoc, List.singleton_append]
  have read := inside s.toList []
  rw [List.reverse_nil, List.nil_append, String.ofList_toList] at read
  rw [Json.quoted, String.toList_ofList, List.append_assoc, List.cons_append, List.cons_append,
    List.nil_append]
  exact scan_of_complete (by decide) read

theorem scanOne_of_isDigit (digit : c.isDigit = true) :
    scanOne c cs = numberFrom false (c :: cs) := by
  unfold scanOne
  split
  case h_12 => exact if_pos digit
  all_goals exact absurd digit (by decide)

theorem isSpace_of_isDigit (digit : c.isDigit = true) : isSpace c = false := by
  rw [← Bool.not_eq_true]
  intro space
  simp only [isSpace, Bool.or_eq_true, decide_eq_true_eq] at space
  rcases space with ((rfl | rfl) | rfl) | rfl
  all_goals exact absurd digit (by decide)

theorem scan_number {n : Number} (whole : n.IsWhole) (follows : EndsNumber rest) :
    scan (n.render.toList ++ rest) = .number (.ok n) :: scan rest := by
  cases n with
  | double x => exact whole.elim
  | whole n =>
    obtain ⟨least, most⟩ := whole
    have limits : Number.signedLimit < Number.limit := by decide
    have text : (Number.whole n).render = n.repr := rfl
    rw [text, Int.repr_eq_if]
    by_cases sign : 0 ≤ n
    · -- The first digit is what the scan goes by.
      have read := numberFrom_toDigits n.toNat false (by omega) nofun follows
      rw [if_neg Bool.false_ne_true, Int.toNat_of_nonneg sign] at read
      rw [if_pos sign, Nat.repr_eq_ofList_toDigits, String.toList_ofList]
      cases digits : Nat.toDigits 10 n.toNat with
      | nil => exact absurd digits Nat.toDigits_ne_nil
      | cons c cs =>
        have digit : c.isDigit = true :=
          Nat.isDigit_of_mem_toDigits (by omega) (by omega) (digits ▸ List.mem_cons_self)
        rw [digits] at read
        apply scan_of_complete (isSpace_of_isDigit digit)
        rw [scanOne_of_isDigit digit]
        exact read
    · have read := numberFrom_toDigits (-n).toNat true (by omega) (fun _ => by omega) follows
      rw [if_pos rfl, Int.toNat_of_nonneg (by omega), Int.neg_neg] at read
      have minus : "-".toList = ['-'] := rfl
      rw [if_neg sign, Nat.repr_eq_ofList_toDigits, String.toList_append, minus,
        String.toList_ofList, List.append_assoc]
      exact scan_of_complete (by decide) read

end Scan

end Lexeme

namespace Json

mutual

def IsWhole : Json → Prop
  | .null | .bool _ | .text _ => True
  | .number n => n.IsWhole
  | .array items => itemsWhole items
  | .object members => membersWhole members

def itemsWhole : List Json → Prop
  | [] => True
  | j :: rest => j.IsWhole ∧ itemsWhole rest

def membersWhole : List (String × Json) → Prop
  | [] => True
  | (_, j) :: rest => j.IsWhole ∧ membersWhole rest

end

theorem itemsWhole_iff {items : List Json} : itemsWhole items ↔ ∀ j ∈ items, j.IsWhole := by
  induction items with
  | nil => simp [itemsWhole]
  | cons j rest ih => simp [itemsWhole, ih]

theorem membersWhole_iff {members : List (String × Json)} :
    membersWhole members ↔ ∀ m ∈ members, m.2.IsWhole := by
  induction members with
  | nil => simp [membersWhole]
  | cons m rest ih => simp [membersWhole, ih]

mutual

def lexemes : Json → List Lexeme
  | .null => [.null]
  | .bool b => [.bool b]
  | .number n => [.number (.ok n)]
  | .text s => [.text (.ok s)]
  | .array items => .mark .openArray :: (itemLexemes items ++ [.mark .closeArray])
  | .object members => .mark .openObject :: (memberLexemes members ++ [.mark .closeObject])

def itemLexemes : List Json → List Lexeme
  | [] => []
  | [j] => lexemes j
  | j :: rest => lexemes j ++ .mark .comma :: itemLexemes rest

def memberLexemes : List (String × Json) → List Lexeme
  | [] => []
  | [(k, j)] => .text (.ok k) :: .mark .colon :: lexemes j
  | (k, j) :: rest =>
    .text (.ok k) :: .mark .colon :: (lexemes j ++ .mark .comma :: memberLexemes rest)

end

section Render

open Lexeme

theorem endsNumber_mark (m : Mark) (cs : List Char) : EndsNumber (m.char :: cs) := by
  intro c head
  cases head
  cases m
  all_goals decide

theorem endsNumber_comma (cs : List Char) : EndsNumber (",".toList ++ cs) :=
  endsNumber_mark .comma cs

theorem endsNumber_lineBreak (pretty : Bool) (depth : Nat) (m : Mark) (cs : List Char) :
    EndsNumber ((lineBreak pretty depth).toList ++ m.char :: cs) := by
  cases pretty with
  | false => exact endsNumber_mark m cs
  | true =>
    rw [lineBreak, if_pos rfl, String.toList_ofList, List.cons_append]
    intro c head
    cases head
    decide

theorem scan_key (pretty : Bool) (depth : Nat) (k : String) (rest : List Char) :
    scan ((lineBreak pretty depth ++ quoted k ++ (if pretty then ": " else ":")).toList ++ rest) =
      .text (.ok k) :: .mark .colon :: scan rest := by
  have colon : scan ((if pretty then ": " else ":").toList ++ rest) =
      .mark .colon :: scan rest := by
    cases pretty with
    | false => exact scan_mark .colon
    | true => exact (scan_mark .colon).trans (congrArg _ (scan_space (by decide)))
  rw [String.toList_append, String.toList_append, List.append_assoc, List.append_assoc,
    scan_lineBreak, scan_quoted, colon]

/-- The parts of an array or object stand between its marks, the last on a line of its own. -/
theorem scan_enclosed {inner : String} {parts : List Lexeme} (pretty : Bool) (depth : Nat)
    (first last : Mark) (rest : List Char)
    (read : ∀ rest, EndsNumber rest → scan (inner.toList ++ rest) = parts ++ scan rest) :
    scan ((String.singleton first.char ++ inner ++ lineBreak pretty depth ++
      String.singleton last.char).toList ++ rest) =
        (.mark first :: (parts ++ [.mark last])) ++ scan rest := by
  simp only [String.toList_append, String.toList_singleton, List.append_assoc, List.cons_append,
    List.nil_append]
  rw [scan_mark, read _ (endsNumber_lineBreak pretty depth last rest), scan_lineBreak, scan_mark]

mutual

theorem scan_render (pretty : Bool) : ∀ (j : Json) (depth : Nat) (rest : List Char), j.IsWhole →
    EndsNumber rest → scan ((j.render pretty depth).toList ++ rest) = j.lexemes ++ scan rest
  | .null, _, _, _, _ => by
    rw [render, lexemes]
    exact scan_null
  | .bool b, _, _, _, _ => by
    rw [render, lexemes]
    exact scan_bool b
  | .number n, _, _, whole, follows => by
    rw [render, lexemes]
    exact scan_number whole follows
  | .text s, _, _, _, _ => by
    rw [render, lexemes]
    exact scan_quoted s
  | .array [], _, rest, _, _ => by
    rw [render, lexemes, itemLexemes]
    exact (scan_mark .openArray).trans (congrArg _ (scan_mark .closeArray))
  | .array (j :: js), depth, rest, whole, follows => by
    rw [render, lexemes]
    · apply scan_enclosed pretty depth .openArray .closeArray rest
      intro rest follows
      exact scan_renderItems pretty (j :: js) (depth + 1) rest whole follows
    · exact nofun
  | .object [], _, rest, _, _ => by
    rw [render, lexemes, memberLexemes]
    exact (scan_mark .openObject).trans (congrArg _ (scan_mark .closeObject))
  | .object (m :: ms), depth, rest, whole, follows => by
    rw [render, lexemes]
    · apply scan_enclosed pretty depth .openObject .closeObject rest
      intro rest follows
      exact scan_renderMembers pretty (m :: ms) (depth + 1) rest whole follows
    · exact nofun

theorem scan_renderItems (pretty : Bool) : ∀ (items : List Json) (depth : Nat) (rest : List Char),
    itemsWhole items → EndsNumber rest →
      scan ((renderItems pretty depth items).toList ++ rest) = itemLexemes items ++ scan rest
  | [], _, _, _, _ => by
    rw [renderItems, itemLexemes]
    rfl
  | [j], depth, rest, whole, follows => by
    rw [renderItems, String.toList_append, List.append_assoc, scan_lineBreak, itemLexemes]
    exact scan_render pretty j depth rest whole.1 follows
  | j :: k :: js, depth, rest, whole, follows => by
    have others := scan_renderItems pretty (k :: js) depth rest whole.2 follows
    rw [renderItems, itemLexemes]
    · rw [String.toList_append, String.toList_append, String.toList_append, List.append_assoc,
        List.append_assoc, List.append_assoc, scan_lineBreak,
        scan_render pretty j depth _ whole.1 (endsNumber_comma _), scan_comma, others,
        List.append_assoc, List.cons_append]
    all_goals exact nofun

theorem scan_renderMembers (pretty : Bool) :
    ∀ (members : List (String × Json)) (depth : Nat) (rest : List Char),
    membersWhole members → EndsNumber rest →
      scan ((renderMembers pretty depth members).toList ++ rest) =
        memberLexemes members ++ scan rest
  | [], _, _, _, _ => by
    rw [renderMembers, memberLexemes]
    rfl
  | [(k, j)], depth, rest, whole, follows => by
    rw [renderMembers, renderMember, String.toList_append, List.append_assoc, scan_key,
      memberLexemes, scan_render pretty j depth rest whole.1 follows]
    rfl
  | (k, j) :: m :: ms, depth, rest, whole, follows => by
    have others := scan_renderMembers pretty (m :: ms) depth rest whole.2 follows
    rw [renderMembers, memberLexemes]
    · rw [renderMember, String.toList_append, String.toList_append, String.toList_append,
        List.append_assoc, List.append_assoc, List.append_assoc, scan_key,
        scan_render pretty j depth _ whole.1 (endsNumber_comma _), scan_comma, others]
      simp only [List.append_assoc, List.cons_append]
    all_goals exact nofun

end

end Render

end Json

end Dossier
