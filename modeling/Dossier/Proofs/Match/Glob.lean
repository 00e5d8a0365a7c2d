import Dossier.Match.Pattern
import Mathlib.Data.List.Forall2

/-!
The texts that a pattern with wildcards takes: those that can be cut into pieces, one for each
character of the pattern in order. A row of the matcher says of a text and of each rest of it
whether it can be cut, so that every part of the pattern has one step from row to row.
-/

namespace Dossier.Glob

inductive Piece : Char → List Char → Prop where
  | run (piece : List Char) : Piece '*' piece
  | one (d : Char) : Piece '?' [d]
  | letter {c d : Char} : Query.isWildcard c = false → Text.sameLetter c d = true → Piece c [d]

/-- The text is made of pieces, one for each character of the pattern. -/
def Cuts (pattern text : List Char) : Prop :=
  ∃ pieces, List.Forall₂ Piece pattern pieces ∧ text = pieces.flatten

variable {c d : Char} {pattern text rest : List Char}

theorem cuts_nil : Cuts [] text ↔ text = [] := by
  constructor
  · rintro ⟨_, cut, rfl⟩
    cases cut
    rfl
  · rintro rfl
    exact ⟨[], .nil, rfl⟩

theorem cuts_cons :
    Cuts (c :: pattern) text ↔ ∃ piece rest, Piece c piece ∧ Cuts pattern rest ∧
      text = piece ++ rest := by
  constructor
  · rintro ⟨_, cut, rfl⟩
    cases cut with
    | cons first later => exact ⟨_, _, first, ⟨_, later, rfl⟩, rfl⟩
  · rintro ⟨piece, _, first, ⟨pieces, later, rfl⟩, rfl⟩
    exact ⟨piece :: pieces, .cons first later, rfl⟩

theorem piece_star {piece : List Char} : Piece '*' piece :=
  .run piece

theorem piece_mark_iff {piece : List Char} : Piece '?' piece ↔ ∃ d, piece = [d] := by
  constructor
  · intro taken
    cases taken with
    | one d => exact ⟨d, rfl⟩
    | letter plain _ => cases plain
  · rintro ⟨d, rfl⟩
    exact .one d

theorem piece_letter_iff (plain : Query.isWildcard c = false) (piece : List Char) :
    Piece c piece ↔ ∃ d, piece = [d] ∧ Text.sameLetter c d = true := by
  constructor
  · intro taken
    cases taken with
    | run => cases plain
    | one => cases plain
    | letter _ same => exact ⟨_, rfl, same⟩
  · rintro ⟨d, rfl, same⟩
    exact .letter plain same

theorem cuts_star_cons :
    Cuts ('*' :: pattern) (d :: rest) ↔ Cuts pattern (d :: rest) ∨ Cuts ('*' :: pattern) rest := by
  simp only [cuts_cons]
  constructor
  · rintro ⟨piece, later, -, cut, whole⟩
    cases piece with
    | nil => exact .inl (whole ▸ cut)
    | cons _ piece =>
      obtain ⟨rfl, rfl⟩ := List.cons_eq_cons.mp whole
      exact .inr ⟨piece, later, piece_star, cut, rfl⟩
  · rintro (cut | ⟨piece, later, -, cut, rfl⟩)
    · exact ⟨[], d :: rest, piece_star, cut, rfl⟩
    · exact ⟨d :: piece, later, piece_star, cut, rfl⟩

theorem cuts_star_nil : Cuts ('*' :: pattern) [] ↔ Cuts pattern [] := by
  rw [cuts_cons]
  constructor
  · rintro ⟨piece, later, -, cut, whole⟩
    obtain ⟨-, rfl⟩ := List.append_eq_nil_iff.mp whole.symm
    exact cut
  · intro cut
    exact ⟨[], [], piece_star, cut, rfl⟩

theorem cuts_single_cons {p : Char → Prop}
    (takes : ∀ piece, Piece c piece ↔ ∃ d, piece = [d] ∧ p d) :
    Cuts (c :: pattern) (d :: rest) ↔ p d ∧ Cuts pattern rest := by
  rw [cuts_cons]
  constructor
  · rintro ⟨_, later, taken, cut, whole⟩
    obtain ⟨e, rfl, fits⟩ := (takes _).mp taken
    obtain ⟨rfl, rfl⟩ := List.cons_eq_cons.mp whole
    exact ⟨fits, cut⟩
  · rintro ⟨fits, cut⟩
    exact ⟨[d], rest, (takes _).mpr ⟨d, rfl, fits⟩, cut, rfl⟩

theorem not_cuts_single_nil {p : Char → Prop}
    (takes : ∀ piece, Piece c piece ↔ ∃ d, piece = [d] ∧ p d) : ¬Cuts (c :: pattern) [] := by
  rw [cuts_cons]
  rintro ⟨_, later, taken, -, whole⟩
  obtain ⟨e, rfl, -⟩ := (takes _).mp taken
  cases whole

/-- The row says of the text and of each rest of it whether `p` holds there. -/
inductive Tells (p : List Char → Prop) : List Char → List Bool → Prop where
  | last {b : Bool} : (b = true ↔ p []) → Tells p [] [b]
  | step {c : Char} {rest : List Char} {b : Bool} {row : List Bool} :
      (b = true ↔ p (c :: rest)) → Tells p rest row → Tells p (c :: rest) (b :: row)

variable {p q : List Char → Prop} {row : List Bool}

theorem Tells.headD (h : Tells p text row) : row.headD false = true ↔ p text := by
  cases h with
  | last here => exact here
  | step here _ => exact here

theorem tells_baseRow (text : List Char) :
    Tells (Cuts []) text (baseRow (text.map Text.caseClass)) := by
  induction text with
  | nil => exact .last (iff_of_true rfl (cuts_nil.mpr rfl))
  | cons c rest ih =>
    refine .step (iff_of_false Bool.false_ne_true ?_) ih
    rw [cuts_nil]
    exact List.cons_ne_nil c rest

theorem Tells.run (h : Tells (Cuts pattern) text row) :
    Tells (Cuts ('*' :: pattern)) text
      (row.foldr (fun b later => (b || later.headD false) :: later) []) := by
  induction h with
  | last here =>
    refine .last ?_
    rw [List.foldr_nil, List.headD_nil, Bool.or_false, cuts_star_nil]
    exact here
  | step here _ ih =>
    refine .step ?_ ih
    rw [Bool.or_eq_true, here, ih.headD, cuts_star_cons]

theorem Tells.shift {f : Char → Bool} (h : Tells p text row) (nowhere : ¬q [])
    (earlier : ∀ d rest, q (d :: rest) ↔ f d = true ∧ p rest) :
    Tells q text (List.zipWith (fun d b => f d && b) text row.tail ++ [false]) := by
  induction h with
  | last => exact .last (iff_of_false Bool.false_ne_true nowhere)
  | step _ later ih =>
    cases later with
    | last here =>
      refine .step ?_ ih
      rw [Bool.and_eq_true, here, earlier]
    | step here _ =>
      refine .step ?_ ih
      rw [Bool.and_eq_true, here, earlier]

theorem Tells.length (h : Tells p text row) : row.length = text.length + 1 := by
  induction h with
  | last => rfl
  | step _ _ ih => rw [List.length_cons, List.length_cons, ih]

theorem partOf_letter (plain : Query.isWildcard c = false) :
    partOf c = .letter (Text.caseClass c) := by
  unfold Query.isWildcard at plain
  rw [Bool.or_eq_false_iff, decide_eq_false_iff_not, decide_eq_false_iff_not] at plain
  rw [partOf, if_neg plain.1, if_neg plain.2]

theorem Tells.rowBefore (h : Tells (Cuts pattern) text row) (c : Char) :
    Tells (Cuts (c :: pattern)) text (rowBefore (partOf c) (text.map Text.caseClass) row) := by
  by_cases star : c = '*'
  · subst star
    exact h.run
  by_cases mark : c = '?'
  · subst mark
    have takes : ∀ piece, Piece '?' piece ↔ ∃ d, piece = [d] ∧ True := by
      intro piece
      simp only [piece_mark_iff, and_true]
    have shifted := h.shift (f := fun _ => true) (not_cuts_single_nil takes) fun d rest => by
      rw [cuts_single_cons takes, eq_self]
    have same : List.zipWith (fun _ b => true && b) text row.tail = row.tail := by
      have long : row.tail.length = text.length := by
        rw [List.length_tail, h.length, Nat.add_sub_cancel]
      rw [← List.map_uncurry_zip_eq_zipWith]
      exact List.map_snd_zip (Nat.le_of_eq long)
    rw [same] at shifted
    exact shifted
  · have plain : Query.isWildcard c = false := by
      rw [Query.isWildcard, decide_eq_false star, decide_eq_false mark]
      rfl
    have takes := piece_letter_iff plain
    have shifted := h.shift (f := fun d => Text.caseClass d == Text.caseClass c)
      (not_cuts_single_nil takes) fun d rest => by
        rw [cuts_single_cons takes, Text.sameLetter, beq_iff_eq, beq_iff_eq, eq_comm]
    rw [partOf_letter plain, Glob.rowBefore, List.zipWith_map_left]
    exact shifted

theorem accepts_iff_cuts : accepts pattern text = true ↔ Cuts pattern text := by
  have tells : Tells (Cuts pattern) text ((pattern.map partOf).foldr
      (fun p row => rowBefore p (text.map Text.caseClass) row)
      (baseRow (text.map Text.caseClass))) := by
    induction pattern with
    | nil => exact tells_baseRow text
    | cons c pattern ih => exact ih.rowBefore c
  exact tells.headD

instance : Decidable (Cuts pattern text) := decidable_of_iff _ accepts_iff_cuts

theorem cuts_star :
    Cuts ('*' :: pattern) text ↔ ∃ before rest, text = before ++ rest ∧ Cuts pattern rest := by
  rw [cuts_cons]
  constructor
  · rintro ⟨before, rest, -, cut, whole⟩
    exact ⟨before, rest, whole, cut⟩
  · rintro ⟨before, rest, whole, cut⟩
    exact ⟨before, rest, piece_star, cut, whole⟩

theorem cuts_literal_append {word : List Char}
    (literal : ∀ c ∈ word, Query.isWildcard c = false) :
    Cuts (word ++ pattern) text ↔ ∃ piece rest, text = piece ++ rest ∧
      piece.map Text.caseClass = word.map Text.caseClass ∧ Cuts pattern rest := by
  induction word generalizing text with
  | nil =>
    constructor
    · intro cut
      exact ⟨[], text, rfl, rfl, cut⟩
    · rintro ⟨piece, rest, rfl, empty, cut⟩
      obtain rfl := List.map_eq_nil_iff.mp empty
      exact cut
  | cons c word ih =>
    have first := piece_letter_iff (literal c List.mem_cons_self)
    have others : ∀ d ∈ word, Query.isWildcard d = false :=
      fun d mem => literal d (List.mem_cons_of_mem c mem)
    cases text with
    | nil =>
      refine iff_of_false (not_cuts_single_nil first) ?_
      rintro ⟨piece, rest, whole, same, -⟩
      obtain ⟨rfl, -⟩ := List.append_eq_nil_iff.mp whole.symm
      cases same
    | cons d text =>
      rw [List.cons_append, cuts_single_cons first, ih others, Text.sameLetter, beq_iff_eq]
      constructor
      · rintro ⟨same, piece, rest, rfl, rest_same, cut⟩
        refine ⟨d :: piece, rest, rfl, ?_, cut⟩
        rw [List.map_cons, List.map_cons, same, rest_same]
      · rintro ⟨piece, rest, whole, same, cut⟩
        cases piece with
        | nil => cases same
        | cons e piece =>
          obtain ⟨rfl, rfl⟩ := List.cons_eq_cons.mp whole
          obtain ⟨here, there⟩ := List.cons_eq_cons.mp same
          exact ⟨here.symm, piece, rest, rfl, there, cut⟩

end Dossier.Glob

namespace Dossier.Pattern

variable {source : String}

theorem compile_of_wildcard {compiles : List Char → Bool}
    (wild : Query.containsWildcard source = true) (usable : compiles source.toList = true)
    (exact : Bool) : compileWith compiles source exact = .glob source := by
  rw [compileWith, wild, usable]
  rfl

theorem isMatch_glob_iff {text : String} :
    ((glob source).grade text).isMatch = true ↔ Glob.Cuts source.toList text.toList := by
  rw [grade, ← Glob.accepts_iff_cuts]
  cases Glob.accepts source.toList text.toList with
  | false => exact iff_of_false Bool.false_ne_true Bool.false_ne_true
  | true => exact iff_of_true rfl rfl

end Dossier.Pattern
