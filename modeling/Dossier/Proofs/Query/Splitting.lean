import Dossier.Proofs.Query.Scan

/-!
How a text splits into lexemes by longest match. Blanks are skipped, a parenthesis stands alone, a
quoted run ends at the next quote, and a bare run goes as far as it can. Every text splits in
exactly one way, and its scan is that way.
-/

namespace Dossier.Query.Lexeme

/-- A text, whose first character has the given position, and its lexemes. A quote that is never
closed takes the rest of the text with it, and the name of its field. -/
inductive Splits : Nat → List Char → Scan → Prop
  | nil {p} : Splits p [] ⟨[], none⟩
  | blank {p c cs s} : Text.isBlank c = true → Splits (p + 1) cs s → Splits p (c :: cs) s
  | opening {p cs s} : Splits (p + 1) cs s → Splits p ('(' :: cs) (s.cons .open)
  | closing {p cs s} : Splits (p + 1) cs s → Splits p (')' :: cs) (s.cons .close)
  | quoted {p before field content cs s} : Opens before field → '"' ∉ content →
      Splits (p + before.length + content.length + 2) cs s →
      Splits p (before ++ '"' :: (content ++ '"' :: cs)) (s.cons (.quoted field content))
  | unclosed {p before field content} : Opens before field → '"' ∉ content →
      Splits p (before ++ '"' :: content) ⟨[], some (p + before.length)⟩
  | bare {p run cs s} : IsBare run → (∀ c, cs.head? = some c → inRun c = false) →
      (cs.head? = some '"' → ∀ field, ¬Opens run (some field)) →
      Splits (p + run.length) cs s → Splits p (run ++ cs) (s.cons (.bare run))

theorem scan_eq_of_splits {p : Nat} {cs : List Char} {s : Scan} (h : Splits p cs s) :
    scan p cs = s := by
  induction h with
  | nil => rw [scan]
  | blank blank _ ih => rw [scan_blank _ _ blank, ih]
  | opening _ ih => rw [scan_open, ih]
  | closing _ ih => rw [scan_close, ih]
  | quoted opens closed _ ih => rw [scan_quoted _ _ opens closed, ih]
  | unclosed opens unclosed => exact scan_unclosed _ opens unclosed
  | bare bare stops unnamed _ ih => rw [scan_bare _ _ bare stops unnamed, ih]

theorem splits_scan (p : Nat) (cs : List Char) : Splits p cs (scan p cs) := by
  induction p, cs using scan.induct with
  | case1 p => rw [scan]; exact .nil
  | case2 p c cs blank ih => rw [scan_blank p cs blank]; exact .blank blank ih
  | case3 p cs _ ih => rw [scan_open]; exact .opening ih
  | case4 p cs _ _ ih => rw [scan_close]; exact .closing ih
  | case5 p cs content rest k _ _ _ _ ih =>
    obtain ⟨rfl, closed⟩ := splitQuote?_eq_some_iff.mp k
    rw [← List.nil_append ('"' :: _), scan_quoted p rest .phrase closed]
    exact .quoted .phrase closed ih
  | case6 p cs k =>
    have unclosed := splitQuote?_eq_none_iff.mp k
    rw [← List.nil_append ('"' :: cs), scan_unclosed p .phrase unclosed]
    exact .unclosed .phrase unclosed
  | case7 p c cs blank opening closing quote run _ after field eq named _ content rest k _ ih =>
    have opens := fieldBefore?_eq_some_iff.mp named
    obtain ⟨rfl, closed⟩ := splitQuote?_eq_some_iff.mp k
    rw [← takeRun_append c cs, eq, scan_quoted p rest opens closed]
    exact .quoted opens closed ih
  | case8 p c cs blank opening closing quote run _ after field eq named _ k =>
    have opens := fieldBefore?_eq_some_iff.mp named
    have unclosed := splitQuote?_eq_none_iff.mp k
    rw [← takeRun_append c cs, eq, scan_unclosed p opens unclosed]
    exact .unclosed opens unclosed
  | case9 p c cs blank opening closing quote run _ other ih =>
    have bare := isBare_run (inRun_of_not blank opening closing quote) cs
    have stops (d : Char) (head : (cs.dropWhile inRun).head? = some d) : inRun d = false := by
      have stop := List.head?_dropWhile_not inRun cs
      rwa [head] at stop
    have unnamed (head : (cs.dropWhile inRun).head? = some '"') (name : List Char) :
        ¬Opens run (some name) := by
      intro named
      obtain ⟨after, eq⟩ := List.head?_eq_some_iff.mp head
      exact other after name eq (fieldBefore?_eq_some_iff.mpr named)
    rw [← takeRun_append c cs, scan_bare p _ bare stops unnamed]
    exact .bare bare stops unnamed ih

/-- A text splits into the lexemes of its scan, and in no other way. -/
theorem splits_iff {p : Nat} {cs : List Char} {s : Scan} : Splits p cs s ↔ s = scan p cs := by
  constructor
  · intro h
    exact (scan_eq_of_splits h).symm
  · rintro rfl
    exact splits_scan p cs

theorem isWritable_of_splits {p : Nat} {cs : List Char} {s : Scan} (h : Splits p cs s) :
    ∀ l ∈ s.lexemes, l.IsWritable := by
  induction h with
  | nil => simp
  | blank _ _ ih => exact ih
  | opening _ ih => exact List.forall_mem_cons.mpr ⟨trivial, ih⟩
  | closing _ ih => exact List.forall_mem_cons.mpr ⟨trivial, ih⟩
  | quoted opens closed _ ih =>
    refine List.forall_mem_cons.mpr ⟨?_, ih⟩
    cases opens with
    | phrase => exact closed
    | field isName => exact ⟨isName, closed⟩
  | unclosed => simp
  | bare bare _ _ _ ih => exact List.forall_mem_cons.mpr ⟨bare, ih⟩

theorem isWritable_of_mem_scan {p : Nat} {cs : List Char} :
    ∀ l ∈ (scan p cs).lexemes, l.IsWritable :=
  isWritable_of_splits (splits_scan p cs)

def IsLastQuote (start position : Nat) (cs : List Char) : Prop :=
  ∃ before after, cs = before ++ '"' :: after ∧ '"' ∉ after ∧ position = start + before.length

theorem IsLastQuote.append {start next position : Nat} {cs : List Char}
    (last : IsLastQuote next position cs) (front : List Char)
    (after : next = start + front.length) : IsLastQuote start position (front ++ cs) := by
  obtain ⟨before, rest, rfl, none, rfl⟩ := last
  refine ⟨front ++ before, rest, (List.append_assoc _ _ _).symm, none, ?_⟩
  rw [after, List.length_append, Nat.add_assoc]

theorem isLastQuote_of_openQuote {p position : Nat} {cs : List Char}
    (opened : (scan p cs).openQuote = some position) : IsLastQuote p position cs := by
  have splits := splits_scan p cs
  generalize scan p cs = s at splits opened
  induction splits with
  | nil => cases opened
  | @blank p c cs s _ _ ih => exact (ih opened).append [c] rfl
  | opening _ ih => exact (ih opened).append ['('] rfl
  | closing _ ih => exact (ih opened).append [')'] rfl
  | @quoted p before field content cs s _ _ _ ih =>
    have after : p + before.length + content.length + 2 =
        p + (before ++ '"' :: (content ++ ['"'])).length := by
      simp
      omega
    simpa using (ih opened).append _ after
  | @unclosed p before field content _ unclosed =>
    cases opened
    exact ⟨before, content, rfl, unclosed, rfl⟩
  | @bare p run cs s _ _ _ _ ih => exact (ih opened).append run rfl

end Dossier.Query.Lexeme
