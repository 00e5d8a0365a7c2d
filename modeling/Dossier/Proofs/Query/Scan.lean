import Dossier.Proofs.Text.Blank
import Dossier.Query.Lexeme

/-!
The lexemes of a query text. Scanning undoes writing: a lexeme that is written and followed by a
space is scanned as itself. A quote that is never closed ends the scan.
-/

namespace Dossier.Query

inductive Lexeme where
  | open
  | close
  | quoted (field : Option (List Char)) (content : List Char)
  | bare (run : List Char)
  deriving DecidableEq, Repr

structure Scan where
  lexemes : List Lexeme
  openQuote : Option Nat
  deriving DecidableEq, Repr

def Scan.cons (l : Lexeme) (s : Scan) : Scan := ⟨l :: s.lexemes, s.openQuote⟩

namespace Lexeme

/-- Scans a text whose first character has the given position. -/
def scan (position : Nat) : List Char → Scan
  | [] => ⟨[], none⟩
  | c :: cs =>
    if Text.isBlank c then scan (position + 1) cs
    else if c = '(' then (scan (position + 1) cs).cons .open
    else if c = ')' then (scan (position + 1) cs).cons .close
    else if c = '"' then
      match h : splitQuote? cs with
      | some (content, rest) =>
        have := length_splitQuote? h
        (scan (position + content.length + 2) rest).cons (.quoted none content)
      | none => ⟨[], some position⟩
    else
      let run := c :: cs.takeWhile inRun
      have : (cs.dropWhile inRun).length ≤ cs.length := (List.dropWhile_suffix _).length_le
      match h : cs.dropWhile inRun, fieldBefore? run with
      | '"' :: after, some field =>
        have := congrArg List.length h
        match k : splitQuote? after with
        | some (content, rest) =>
          have := length_splitQuote? k
          (scan (position + run.length + content.length + 2) rest).cons
            (.quoted (some field) content)
        | none => ⟨[], some (position + run.length)⟩
      | rest, _ => (scan (position + run.length) rest).cons (.bare run)
termination_by cs => cs.length
decreasing_by all_goals simp_all <;> omega

def written : Lexeme → List Char
  | .open => ['(']
  | .close => [')']
  | .quoted none content => '"' :: content ++ ['"']
  | .quoted (some field) content => field ++ ':' :: '"' :: content ++ ['"']
  | .bare run => run

def IsBare (run : List Char) : Prop := run ≠ [] ∧ ∀ c ∈ run, inRun c = true

def IsWritable : Lexeme → Prop
  | .open | .close => True
  | .quoted none content => '"' ∉ content
  | .quoted (some field) content => isFieldName field = true ∧ '"' ∉ content
  | .bare run => IsBare run

theorem inRun_of_isAlphanumeric {c : Char} (h : Text.isAlphanumeric c = true) :
    inRun c = true ∧ c ≠ ':' := by
  have notBlank : Text.isBlank c = false := by
    cases blank : Text.isBlank c with
    | false => rfl
    | true => rw [Text.isAlphanumeric_of_isBlank blank] at h; cases h
  have other : c ≠ '(' ∧ c ≠ ')' ∧ c ≠ '"' ∧ c ≠ ':' := by
    refine ⟨?_, ?_, ?_, ?_⟩ <;> rintro rfl <;> exact absurd h (by decide)
  simp [inRun, isBoundary, notBlank, other]

theorem inRun_of_isFieldName {field : List Char} (h : isFieldName field = true) :
    ∀ c ∈ field, inRun c = true ∧ c ≠ ':' := by
  cases field with
  | nil => cases h
  | cons c rest =>
    simp only [isFieldName, Bool.and_eq_true, Bool.or_eq_true, List.all_eq_true,
      decide_eq_true_eq] at h
    intro d hd
    rcases List.mem_cons.mp hd with rfl | hd
    · rcases h.1 with letter | rfl
      · exact inRun_of_isAlphanumeric (by simp [Text.isAlphanumeric, letter])
      · decide
    · rcases h.2 d hd with ((letter | rfl) | rfl) | rfl
      · exact inRun_of_isAlphanumeric letter
      · decide
      · decide
      · decide

/-- What stands before the quote of a quoted run: the name of its field and a colon, if any. -/
inductive Opens : List Char → Option (List Char) → Prop
  | phrase : Opens [] none
  | field {name : List Char} : isFieldName name = true → Opens (name ++ [':']) (some name)

theorem fieldBefore?_eq_some_iff {run name : List Char} :
    fieldBefore? run = some name ↔ Opens run (some name) := by
  constructor
  · intro h
    unfold fieldBefore? at h
    split at h
    · rename_i named
      obtain ⟨colon, isName⟩ := Bool.and_eq_true_iff.mp named
      obtain ⟨front, rfl⟩ := List.getLast?_eq_some_iff.mp (of_decide_eq_true colon)
      rw [List.dropLast_concat] at h isName
      cases h
      exact .field isName
    · cases h
  · intro h
    cases h with
    | field isName => simp [fieldBefore?, isName]

theorem isBare_of_opens {run name : List Char} (h : Opens run (some name)) : IsBare run := by
  cases h with
  | field isName =>
    refine ⟨by simp, fun c hc => ?_⟩
    rcases List.mem_append.mp hc with hc | hc
    · exact (inRun_of_isFieldName isName c hc).1
    · rw [List.mem_singleton.mp hc]
      decide

theorem splitQuote?_eq_some_iff {cs content rest : List Char} :
    splitQuote? cs = some (content, rest) ↔ cs = content ++ '"' :: rest ∧ '"' ∉ content := by
  constructor
  · intro h
    have whole := List.takeWhile_append_dropWhile (p := (· ≠ '"')) (l := cs)
    have stop := List.head?_dropWhile_not (· ≠ '"') cs
    unfold splitQuote? at h
    split at h
    · cases h
    · rename_i dropped
      cases h
      rw [dropped] at whole stop
      simp only [List.head?_cons, decide_eq_false_iff_not, not_not] at stop
      rw [stop] at whole
      refine ⟨whole.symm, fun mem => ?_⟩
      simpa using List.mem_takeWhile_imp mem
  · rintro ⟨rfl, closed⟩
    have all : ∀ c ∈ content, (decide (c ≠ '"')) = true := by
      intro c hc
      simpa using fun eq : c = '"' => closed (eq ▸ hc)
    simp only [splitQuote?, List.dropWhile_append_of_pos all, List.takeWhile_append_of_pos all]
    simp

theorem splitQuote?_eq_none_iff {cs : List Char} : splitQuote? cs = none ↔ '"' ∉ cs := by
  constructor
  · intro h mem
    obtain ⟨content, rest, rfl, closed⟩ := List.eq_append_cons_of_mem mem
    rw [splitQuote?_eq_some_iff.mpr ⟨rfl, closed⟩] at h
    cases h
  · intro h
    refine Option.eq_none_iff_forall_ne_some.mpr fun parts split => h ?_
    rw [(splitQuote?_eq_some_iff.mp split).1]
    exact List.mem_append_right _ List.mem_cons_self

section Scan

variable (p : Nat) (rest : List Char)

theorem scan_blank {c : Char} (h : Text.isBlank c = true) :
    scan p (c :: rest) = scan (p + 1) rest := by
  rw [scan, if_pos h]

theorem scan_of_isBlankText {cs : List Char} (h : Text.isBlankText cs = true) :
    scan p cs = ⟨[], none⟩ := by
  induction cs generalizing p with
  | nil => rw [scan]
  | cons c rest ih =>
    obtain ⟨first, later⟩ := Bool.and_eq_true_iff.mp h
    rw [scan_blank p rest first, ih _ later]

theorem scan_open : scan p ('(' :: rest) = (scan (p + 1) rest).cons .open := by
  rw [scan, if_neg (by decide), if_pos rfl]

theorem scan_close : scan p (')' :: rest) = (scan (p + 1) rest).cons .close := by
  rw [scan, if_neg (by decide), if_neg (by decide), if_pos rfl]

theorem inRun_iff {c : Char} :
    inRun c = true ↔ Text.isBlank c = false ∧ c ≠ '(' ∧ c ≠ ')' ∧ c ≠ '"' := by
  simp [inRun, isBoundary, and_assoc]

theorem inRun_of_not {c : Char} (blank : ¬Text.isBlank c = true) (opening : c ≠ '(')
    (closing : c ≠ ')') (quote : c ≠ '"') : inRun c = true := by
  rw [Bool.not_eq_true] at blank
  exact inRun_iff.mpr ⟨blank, opening, closing, quote⟩

def scanRun (run : List Char) (rest : List Char) : Scan :=
  match rest, fieldBefore? run with
  | '"' :: after, some field =>
    match splitQuote? after with
    | some (content, rest) =>
      (scan (p + run.length + content.length + 2) rest).cons (.quoted (some field) content)
    | none => ⟨[], some (p + run.length)⟩
  | rest, _ => (scan (p + run.length) rest).cons (.bare run)

theorem scan_eq_scanRun {c : Char} (h : inRun c = true) (cs : List Char) :
    scan p (c :: cs) = scanRun p (c :: cs.takeWhile inRun) (cs.dropWhile inRun) := by
  obtain ⟨blank, opening, closing, quote⟩ := inRun_iff.mp h
  rw [scan, if_neg (by simp [blank]), if_neg opening, if_neg closing, if_neg quote]
  dsimp only
  split
  · rename_i after field eq named
    simp only [scanRun, eq, named]
    split
    · rename_i k
      simp only [k]
    · rename_i k
      simp only [k]
  · rename_i other
    unfold scanRun
    split
    · rename_i eq named
      exact absurd named (other _ _ eq)
    · rfl

theorem scan_run {c : Char} (h : inRun c = true) (cs : List Char)
    (unnamed : ∀ after field, cs.dropWhile inRun = '"' :: after →
      fieldBefore? (c :: cs.takeWhile inRun) = some field → False) :
    scan p (c :: cs) =
      (scan (p + (c :: cs.takeWhile inRun).length) (cs.dropWhile inRun)).cons
        (.bare (c :: cs.takeWhile inRun)) := by
  rw [scan_eq_scanRun p h cs]
  unfold scanRun
  split
  · rename_i eq named
    exact (unnamed _ _ eq named).elim
  · rfl

theorem scan_append {run : List Char} (h : IsBare run)
    (stops : ∀ c, rest.head? = some c → inRun c = false) :
    scan p (run ++ rest) = scanRun p run rest := by
  obtain ⟨ne, all⟩ := h
  cases run with
  | nil => exact absurd rfl ne
  | cons c cs =>
    have tail : ∀ d ∈ cs, inRun d = true := fun d hd => all d (List.mem_cons_of_mem _ hd)
    have dropped : (cs ++ rest).dropWhile inRun = rest := by
      rw [List.dropWhile_append_of_pos tail]
      exact Text.dropWhile_eq_self stops
    have taken : (cs ++ rest).takeWhile inRun = cs := by
      rw [List.takeWhile_append_of_pos tail]
      cases rest with
      | nil => simp
      | cons d rest => simp [stops d rfl]
    rw [List.cons_append, scan_eq_scanRun p (all c List.mem_cons_self), taken, dropped]

theorem scan_bare {run : List Char} (h : IsBare run)
    (stops : ∀ c, rest.head? = some c → inRun c = false)
    (unnamed : rest.head? = some '"' → ∀ name, ¬Opens run (some name)) :
    scan p (run ++ rest) = (scan (p + run.length) rest).cons (.bare run) := by
  rw [scan_append p rest h stops]
  unfold scanRun
  split
  · rename_i after name named
    exact absurd (fieldBefore?_eq_some_iff.mp named) (unnamed rfl name)
  · rfl

section Quote

variable {before content : List Char} {field : Option (List Char)}

theorem scan_opens (opens : Opens before field) (cs : List Char) :
    scan p (before ++ '"' :: cs) =
      match splitQuote? cs with
      | some (content, rest) =>
        (scan (p + before.length + content.length + 2) rest).cons (.quoted field content)
      | none => ⟨[], some (p + before.length)⟩ := by
  cases opens with
  | phrase =>
    rw [List.nil_append, scan, if_neg (by decide), if_neg (by decide), if_neg (by decide),
      if_pos rfl]
    split
    · rename_i k
      simp only [k]
      rfl
    · rename_i k
      simp only [k]
      rfl
  | field isName =>
    have named : Opens _ _ := .field isName
    rw [scan_append p _ (isBare_of_opens named) (by rintro c ⟨⟩; decide)]
    simp only [scanRun, fieldBefore?_eq_some_iff.mpr named]

theorem scan_quoted (opens : Opens before field) (closed : '"' ∉ content) :
    scan p (before ++ '"' :: (content ++ '"' :: rest)) =
      (scan (p + before.length + content.length + 2) rest).cons (.quoted field content) := by
  rw [scan_opens p opens, splitQuote?_eq_some_iff.mpr ⟨rfl, closed⟩]

theorem scan_unclosed (opens : Opens before field) (unclosed : '"' ∉ content) :
    scan p (before ++ '"' :: content) = ⟨[], some (p + before.length)⟩ := by
  rw [scan_opens p opens, splitQuote?_eq_none_iff.mpr unclosed]

end Quote

/-- A lexeme that is written before a space or at the end is scanned as itself. -/
theorem scan_written {l : Lexeme} (h : l.IsWritable) (space : ∀ c, rest.head? = some c → c = ' ') :
    ∃ q, scan p (l.written ++ rest) = (scan q rest).cons l := by
  match l with
  | .open => exact ⟨_, scan_open p rest⟩
  | .close => exact ⟨_, scan_close p rest⟩
  | .bare run =>
    refine ⟨_, scan_bare p rest h (fun c head => space c head ▸ by decide) fun quote => ?_⟩
    exact absurd (space '"' quote) (by decide)
  | .quoted none content => exact ⟨_, by simpa [written] using scan_quoted p rest .phrase h⟩
  | .quoted (some field) content =>
    exact ⟨_, by simpa [written] using scan_quoted p rest (.field h.1) h.2⟩

end Scan

theorem isBare_run {c : Char} (h : inRun c = true) (cs : List Char) :
    IsBare (c :: cs.takeWhile inRun) := by
  refine ⟨List.cons_ne_nil _ _, fun d hd => ?_⟩
  rcases List.mem_cons.mp hd with rfl | hd
  · exact h
  · exact List.mem_takeWhile_imp hd

theorem takeRun_append (c : Char) (cs : List Char) :
    (c :: cs.takeWhile inRun) ++ cs.dropWhile inRun = c :: cs :=
  congrArg (c :: ·) List.takeWhile_append_dropWhile

end Lexeme

end Dossier.Query
