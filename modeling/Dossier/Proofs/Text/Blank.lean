import Dossier.Text.Blank
import Dossier.Text.Letter
import Mathlib.Data.List.TakeWhile

/-!
Blanks one by one, trimming, and words. No blank is a letter or a digit. Trimming takes nothing away
from a trimmed text, and leaves nothing of a blank one. A text is read word by word, and each word
begins where a blank or the text does and ends where a blank or the text does.
-/

namespace Dossier.Text

def blankCodes : List Nat :=
  [0x09, 0x0A, 0x0B, 0x0C, 0x0D, 0x20, 0x85, 0xA0, 0x1680, 0x2000, 0x2001, 0x2002, 0x2003, 0x2004,
    0x2005, 0x2006, 0x2007, 0x2008, 0x2009, 0x200A, 0x2028, 0x2029, 0x202F, 0x205F, 0x3000]

theorem mem_blankCodes {c : Char} (h : isBlank c = true) : c.toNat ∈ blankCodes := by
  simp only [isBlank, Bool.or_eq_true, Bool.and_eq_true, beq_iff_eq, decide_eq_true_eq] at h
  simp only [blankCodes, List.mem_cons]
  omega

theorem isBlank_ofNat {n : Nat} (h : n ∈ blankCodes) : isBlank (Char.ofNat n) = true := by
  have all : ∀ n ∈ blankCodes, isBlank (Char.ofNat n) = true := by decide
  exact all n h

theorem isAlphanumeric_of_isBlank {c : Char} (h : isBlank c = true) :
    isAlphanumeric c = false := by
  have all : ∀ n ∈ blankCodes, isAlphanumeric (Char.ofNat n) = false := by decide +kernel
  have := all _ (mem_blankCodes h)
  rwa [Char.ofNat_toNat] at this

theorem dropWhile_eq_self {p : Char → Bool} {cs : List Char}
    (h : ∀ c, cs.head? = some c → p c = false) : cs.dropWhile p = cs := by
  cases cs with
  | nil => rfl
  | cons c rest => rw [List.dropWhile_cons_of_neg (by simp [h c rfl])]

theorem isBlank_of_head?_trimStart {cs : List Char} {c : Char}
    (h : (trimStart cs).head? = some c) : isBlank c = false := by
  have := List.head?_dropWhile_not isBlank cs
  rw [trimStart] at h
  rw [h] at this
  simpa using this

theorem trimStart_trimStart (cs : List Char) : trimStart (trimStart cs) = trimStart cs :=
  dropWhile_eq_self fun _ => isBlank_of_head?_trimStart

theorem trimStart_suffix (cs : List Char) : trimStart cs <:+ cs := List.dropWhile_suffix _

theorem trim_prefix_trimStart (cs : List Char) : trim cs <+: trimStart cs := by
  rw [trim, ← List.reverse_suffix, List.reverse_reverse]
  exact trimStart_suffix _

theorem trim_isInfix (cs : List Char) : trim cs <:+: cs :=
  (trim_prefix_trimStart cs).isInfix.trans (trimStart_suffix cs).isInfix

theorem mem_of_mem_trim {cs : List Char} {c : Char} (h : c ∈ trim cs) : c ∈ cs :=
  (trim_isInfix cs).subset h

theorem trim_trim (cs : List Char) : trim (trim cs) = trim cs := by
  have start : trimStart (trim cs) = trim cs := by
    refine dropWhile_eq_self fun c hc => ?_
    obtain ⟨tail, eq⟩ := trim_prefix_trimStart cs
    have head : (trimStart cs).head? = some c := by
      rw [← eq, List.head?_append, hc, Option.some_or]
    exact isBlank_of_head?_trimStart head
  rw [trim, start, trim, List.reverse_reverse, trimStart_trimStart]

section Filled

variable {c : Char} (filled : isBlank c = false)

include filled

theorem trimStart_append (before after : List Char) :
    trimStart (before ++ c :: after) = trimStart before ++ c :: after := by
  unfold trimStart
  induction before with
  | nil => simp [filled]
  | cons d rest ih =>
    by_cases blank : isBlank d = true
    · simp [blank, ih]
    · simp [blank]

theorem trim_append (before after : List Char) :
    trim (before ++ c :: after) = trimStart before ++ c :: (trimStart after.reverse).reverse := by
  rw [trim, trimStart_append filled, List.reverse_append, List.reverse_cons, List.append_assoc,
    List.singleton_append, trimStart_append filled]
  simp

theorem count_trimStart (cs : List Char) : (trimStart cs).count c = cs.count c := by
  unfold trimStart
  induction cs with
  | nil => rfl
  | cons d rest ih =>
    by_cases blank : isBlank d = true
    · have other : d ≠ c := by
        rintro rfl
        rw [filled] at blank
        cases blank
      rw [List.dropWhile_cons_of_pos blank, ih, List.count_cons_of_ne other]
    · rw [List.dropWhile_cons_of_neg blank]

theorem count_trim (cs : List Char) : (trim cs).count c = cs.count c := by
  rw [trim, List.count_reverse, count_trimStart filled, List.count_reverse, count_trimStart filled]

end Filled

theorem words_cons_of_isBlank {c : Char} (h : isBlank c = true) (cs : List Char) :
    words (c :: cs) = words cs := by
  conv => lhs; unfold words
  exact if_pos h

theorem words_append {w rest : List Char} (filled : w ≠ []) (unbroken : ∀ c ∈ w, isBlank c = false)
    (ends : ∀ c, rest.head? = some c → isBlank c = true) : words (w ++ rest) = w :: words rest := by
  induction w with
  | nil => exact absurd rfl filled
  | cons c w ih =>
    obtain ⟨first, later⟩ := List.forall_mem_cons.mp unbroken
    have notBlank : ¬isBlank c = true := by simp [first]
    rw [List.cons_append]
    conv => lhs; unfold words
    rw [if_neg notBlank]
    cases w with
    | nil =>
      rw [List.nil_append]
      cases rest with
      | nil => rfl
      | cons d rest =>
        cases words (d :: rest) with
        | nil => rfl
        | cons v vs => exact if_pos (ends d rfl)
    | cons d w =>
      rw [ih (List.cons_ne_nil d w) later]
      exact if_neg (by simp [later d List.mem_cons_self])

theorem wordInduction {motive : List Char → Prop} (nil : motive [])
    (blank : ∀ c rest, isBlank c = true → motive rest → motive (c :: rest))
    (word : ∀ w rest, w ≠ [] → (∀ c ∈ w, isBlank c = false) →
      (∀ c, rest.head? = some c → isBlank c = true) → motive rest → motive (w ++ rest))
    (cs : List Char) : motive cs := by
  obtain ⟨n, length⟩ : ∃ n, cs.length = n := ⟨_, rfl⟩
  induction n using Nat.strongRecOn generalizing cs with
  | ind n ih =>
    cases cs with
    | nil => exact nil
    | cons c rest =>
      cases first : isBlank c with
      | true => exact blank c rest first (ih _ (by simp [← length]) rest rfl)
      | false =>
        let inWord := fun d => !isBlank d
        have split : c :: rest = (c :: rest.takeWhile inWord) ++ rest.dropWhile inWord := by
          rw [List.cons_append, List.takeWhile_append_dropWhile]
        have shorter : (rest.dropWhile inWord).length < n := by
          have := (List.dropWhile_suffix (l := rest) inWord).length_le
          rw [← length, List.length_cons]
          omega
        rw [split]
        refine word _ _ (List.cons_ne_nil _ _) ?_ ?_ (ih _ shorter _ rfl)
        · intro d mem
          rcases List.mem_cons.mp mem with rfl | mem
          · exact first
          · simpa [inWord] using List.mem_takeWhile_imp mem
        · intro d head
          have stops := List.head?_dropWhile_not inWord rest
          rw [head] at stops
          simpa [inWord] using stops

theorem mem_of_mem_words {cs w : List Char} (mem : w ∈ words cs) :
    w ≠ [] ∧ ∀ c ∈ w, isBlank c = false ∧ c ∈ cs := by
  induction cs using wordInduction with
  | nil => cases mem
  | blank c rest h ih =>
    rw [words_cons_of_isBlank h] at mem
    obtain ⟨filled, each⟩ := ih mem
    exact ⟨filled, fun d hd => ⟨(each d hd).1, List.mem_cons_of_mem c (each d hd).2⟩⟩
  | word v rest filled unbroken ends ih =>
    rw [words_append filled unbroken ends] at mem
    rcases List.mem_cons.mp mem with rfl | mem
    · exact ⟨filled, fun d hd => ⟨unbroken d hd, List.mem_append_left rest hd⟩⟩
    · obtain ⟨filled, each⟩ := ih mem
      exact ⟨filled, fun d hd => ⟨(each d hd).1, List.mem_append_right v (each d hd).2⟩⟩

theorem words_of_isBlankText {cs : List Char} (h : isBlankText cs = true) : words cs = [] := by
  induction cs with
  | nil => rfl
  | cons c rest ih =>
    obtain ⟨first, later⟩ := Bool.and_eq_true_iff.mp h
    rw [words_cons_of_isBlank first, ih later]

theorem words_of_unbroken {cs : List Char} (filled : cs ≠ [])
    (unbroken : ∀ c ∈ cs, isBlank c = false) : words cs = [cs] := by
  have whole : words (cs ++ []) = cs :: words [] :=
    words_append filled unbroken fun c first => by cases first
  rw [List.append_nil] at whole
  exact whole

theorem trim_of_unbroken {cs : List Char} (unbroken : ∀ c ∈ cs, isBlank c = false) :
    trim cs = cs := by
  have start {ds : List Char} (h : ∀ c ∈ ds, isBlank c = false) : trimStart ds = ds :=
    dropWhile_eq_self fun c first => h c (List.mem_of_mem_head? first)
  rw [trim, start unbroken, start (fun c hc => unbroken c (List.mem_reverse.mp hc)),
    List.reverse_reverse]

def IsWord (w : List Char) : Prop := w ≠ [] ∧ (w.all fun c => !isBlank c) = true

instance (w : List Char) : Decidable (IsWord w) := inferInstanceAs (Decidable (_ ∧ _))

theorem IsWord.unbroken {w : List Char} (word : IsWord w) : ∀ c ∈ w, isBlank c = false := by
  simpa [IsWord] using word.2

theorem words_intercalate {ws : List (List Char)} (each : ∀ w ∈ ws, IsWord w) :
    words ([' '].intercalate ws) = ws := by
  induction ws with
  | nil => rfl
  | cons w rest ih =>
    obtain ⟨first, others⟩ := List.forall_mem_cons.mp each
    by_cases last : rest = []
    · rw [last, List.intercalate_singleton]
      exact words_of_unbroken first.1 first.unbroken
    · have ends : ∀ c, ([' '] ++ [' '].intercalate rest).head? = some c → isBlank c = true := by
        intro c head
        cases head
        rfl
      rw [List.intercalate_cons_of_ne_nil last, List.append_assoc,
        words_append first.1 first.unbroken ends, List.singleton_append,
        words_cons_of_isBlank (by rfl), ih others]

end Dossier.Text
