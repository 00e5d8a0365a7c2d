import Dossier.Proofs.Match.Glob

/-!
The regular expression of a pattern with wildcards. It is anchored at both ends; a star becomes any
run of characters, a question mark any character, and what stands between them is taken literally,
with a backslash before each character that would mean something else. Read with case set aside, a
dot that takes line breaks too, and anchors that hold at the ends of the whole text alone, it is
found in just the texts that the pattern takes.
-/

namespace Dossier

namespace Glob

namespace Expression

def metaCharacters : List Char := "\\.+*?()|[]\x7b\x7d^$#&-~".toList

def escape (literal : List Char) : List Char :=
  literal.flatMap fun c => if c ∈ metaCharacters then ['\\', c] else [c]

def writeFrom (literal : List Char) : List Char → List Char
  | [] => escape literal
  | c :: rest =>
    if c = '*' then escape literal ++ '.' :: '*' :: writeFrom [] rest
    else if c = '?' then escape literal ++ '.' :: writeFrom [] rest
    else writeFrom (literal ++ [c]) rest

def write (pattern : List Char) : List Char := '^' :: (writeFrom [] pattern ++ ['$'])

/-- What an expression is made of, as far as it is needed here. -/
inductive Item where
  | start
  | finish
  | any
  | anyRun
  | letter (c : Char)
  deriving DecidableEq, Repr

def read : List Char → Option (List Item)
  | [] => some []
  | '^' :: rest => (read rest).map (.start :: ·)
  | '$' :: rest => (read rest).map (.finish :: ·)
  | '.' :: '*' :: rest => (read rest).map (.anyRun :: ·)
  | '.' :: rest => (read rest).map (.any :: ·)
  | '\\' :: c :: rest =>
    if c ∈ metaCharacters then (read rest).map (.letter c :: ·) else none
  | c :: rest => if c ∈ metaCharacters then none else (read rest).map (.letter c :: ·)

inductive Item.Spans : Item → List Char → List Char → List Char → Prop where
  | start {after : List Char} : Spans .start [] [] after
  | finish {before : List Char} : Spans .finish before [] []
  | any {before after : List Char} {d : Char} : Spans .any before [d] after
  | anyRun {before piece after : List Char} : Spans .anyRun before piece after
  | letter {before after : List Char} {c d : Char} :
      Text.sameLetter c d = true → Spans (.letter c) before [d] after

inductive Spans : List Item → List Char → List Char → List Char → Prop where
  | nil {before after : List Char} : Spans [] before [] after
  | cons {item : Item} {items : List Item} {before piece rest after : List Char} :
      item.Spans before piece (rest ++ after) → Spans items (before ++ piece) rest after →
      Spans (item :: items) before (piece ++ rest) after

def Finds (items : List Item) (text : List Char) : Prop :=
  ∃ before piece after, text = before ++ piece ++ after ∧ Spans items before piece after

def written (c : Char) : List Char :=
  if c = '*' then ['.', '*'] else if c = '?' then ['.'] else escape [c]

def itemOf (c : Char) : Item :=
  if c = '*' then .anyRun else if c = '?' then .any else .letter c

variable {literal pattern before piece after : List Char}

theorem escape_append (cs ds : List Char) : escape (cs ++ ds) = escape cs ++ escape ds :=
  List.flatMap_append

theorem writeFrom_eq (literal pattern : List Char) :
    writeFrom literal pattern = escape literal ++ pattern.flatMap written := by
  induction pattern generalizing literal with
  | nil => rw [writeFrom, List.flatMap_nil, List.append_nil]
  | cons c rest ih =>
    rw [writeFrom, List.flatMap_cons, written]
    by_cases star : c = '*'
    · rw [if_pos star, if_pos star, ih]
      rfl
    · rw [if_neg star, if_neg star]
      by_cases mark : c = '?'
      · rw [if_pos mark, if_pos mark, ih]
        rfl
      · rw [if_neg mark, if_neg mark, ih, escape_append, List.append_assoc]

theorem escape_singleton (c : Char) :
    escape [c] = if c ∈ metaCharacters then ['\\', c] else [c] :=
  List.append_nil _

/-- No star stands where one could be read as a repetition. -/
theorem head?_written_append_ne (c : Char) (more : List Char) :
    (written c ++ more).head? ≠ some '*' := by
  unfold written
  split
  · exact fun same => by cases same
  · split
    · exact fun same => by cases same
    · rename_i plain _
      rw [escape_singleton]
      split
      · exact fun same => by cases same
      · exact fun same => plain (Option.some.inj same)

theorem head?_written_flatMap_ne (pattern : List Char) :
    (pattern.flatMap written ++ ['$']).head? ≠ some '*' := by
  cases pattern with
  | nil => exact fun same => by cases same
  | cons c rest =>
    rw [List.flatMap_cons, List.append_assoc]
    exact head?_written_append_ne c _

theorem read_dot {more : List Char} (apart : more.head? ≠ some '*') :
    read ('.' :: more) = (read more).map (.any :: ·) := by
  cases more with
  | nil => rfl
  | cons d more =>
    have other : d ≠ '*' := fun same => apart (congrArg some same)
    rw [read]
    exact fun _ same => other (List.cons_eq_cons.mp same).1

theorem read_escape (c : Char) (more : List Char) :
    read (escape [c] ++ more) = (read more).map (.letter c :: ·) := by
  rw [escape_singleton]
  split
  · rename_i special
    rw [List.cons_append, List.cons_append, List.nil_append, read, if_pos special]
  · rename_i plain
    have other : ∀ d ∈ metaCharacters, c ≠ d := fun d mem same => plain (same ▸ mem)
    rw [List.cons_append, List.nil_append, read, if_neg plain]
    · exact other '^' (by decide)
    · exact other '$' (by decide)
    · exact fun _ dot => absurd dot (other '.' (by decide))
    · exact other '.' (by decide)
    · exact fun _ _ slash => absurd slash (other '\\' (by decide))

theorem read_written {c : Char} {more : List Char} (apart : more.head? ≠ some '*') :
    read (written c ++ more) = (read more).map (itemOf c :: ·) := by
  unfold written itemOf
  by_cases star : c = '*'
  · rw [if_pos star, if_pos star]
    rfl
  · rw [if_neg star, if_neg star]
    by_cases mark : c = '?'
    · rw [if_pos mark, if_pos mark]
      exact read_dot apart
    · rw [if_neg mark, if_neg mark]
      exact read_escape c more

theorem read_write (pattern : List Char) :
    read (write pattern) = some (.start :: (pattern.map itemOf ++ [.finish])) := by
  have body : read (pattern.flatMap written ++ ['$']) =
      some (pattern.map itemOf ++ [.finish]) := by
    induction pattern with
    | nil => rfl
    | cons c rest ih =>
      rw [List.flatMap_cons, List.append_assoc, read_written (head?_written_flatMap_ne rest), ih]
      rfl
  rw [write, writeFrom_eq, read]
  exact congrArg (Option.map (Item.start :: ·)) body

theorem spans_itemOf_iff {c : Char} : (itemOf c).Spans before piece after ↔ Piece c piece := by
  unfold itemOf
  by_cases star : c = '*'
  · subst star
    exact iff_of_true .anyRun piece_star
  · rw [if_neg star]
    by_cases mark : c = '?'
    · subst mark
      rw [if_pos rfl, piece_mark_iff]
      constructor
      · intro spans
        cases spans with
        | any => exact ⟨_, rfl⟩
      · rintro ⟨d, rfl⟩
        exact .any
    · have plain : Query.isWildcard c = false := by
        rw [Query.isWildcard, decide_eq_false star, decide_eq_false mark]
        rfl
      rw [if_neg mark, piece_letter_iff plain]
      constructor
      · intro spans
        cases spans with
        | letter same => exact ⟨_, rfl, same⟩
      · rintro ⟨d, rfl, same⟩
        exact .letter same

theorem spans_cons_iff {item : Item} {items : List Item} :
    Spans (item :: items) before piece after ↔ ∃ first rest, piece = first ++ rest ∧
      item.Spans before first (rest ++ after) ∧ Spans items (before ++ first) rest after := by
  constructor
  · intro spans
    cases spans with
    | cons first later => exact ⟨_, _, rfl, first, later⟩
  · rintro ⟨first, rest, rfl, here, later⟩
    exact .cons here later

theorem spans_items_iff :
    Spans (pattern.map itemOf ++ [.finish]) before piece after ↔
      Cuts pattern piece ∧ after = [] := by
  induction pattern generalizing before piece with
  | nil =>
    rw [List.map_nil, List.nil_append, spans_cons_iff, cuts_nil]
    constructor
    · rintro ⟨first, rest, rfl, anchor, later⟩
      cases later
      cases anchor
      exact ⟨rfl, rfl⟩
    · rintro ⟨rfl, rfl⟩
      exact ⟨[], [], rfl, .finish, .nil⟩
  | cons c rest ih =>
    rw [List.map_cons, List.cons_append, spans_cons_iff, cuts_cons]
    constructor
    · rintro ⟨first, later, rfl, here, there⟩
      obtain ⟨cut, ended⟩ := ih.mp there
      exact ⟨⟨first, later, spans_itemOf_iff.mp here, cut, rfl⟩, ended⟩
    · rintro ⟨⟨first, later, here, cut, rfl⟩, ended⟩
      exact ⟨first, later, rfl, spans_itemOf_iff.mpr here, ih.mpr ⟨cut, ended⟩⟩

/-- What the expression of a pattern is read as is found in the texts that the pattern takes. -/
theorem finds_write (pattern : List Char) :
    ∃ items, read (write pattern) = some items ∧ ∀ text, Finds items text ↔ Cuts pattern text := by
  refine ⟨_, read_write pattern, fun text => ?_⟩
  constructor
  · rintro ⟨before, piece, after, rfl, spans⟩
    obtain ⟨first, rest, rfl, anchor, later⟩ := spans_cons_iff.mp spans
    obtain ⟨cut, rfl⟩ := spans_items_iff.mp later
    cases anchor
    rw [List.nil_append, List.nil_append, List.append_nil]
    exact cut
  · intro cut
    refine ⟨[], text, [], ?_, .cons .start (spans_items_iff.mpr ⟨cut, rfl⟩)⟩
    rw [List.nil_append, List.append_nil]

end Expression

end Glob

namespace Pattern

/-- A pattern with wildcards whose expression compiles, whichever expressions do, takes a text just
if the text can be cut into pieces, one for each character of the pattern: by the matcher, by the
expression that it is written as, and as the pattern of a term. -/
theorem glob_iff_cuts {compiles : List Char → Bool} {source : String}
    (usable : compiles source.toList = true) (text : String) :
    (Glob.accepts source.toList text.toList = true ↔ Glob.Cuts source.toList text.toList) ∧
    (∃ items, Glob.Expression.read (Glob.Expression.write source.toList) = some items ∧
      (Glob.Expression.Finds items text.toList ↔ Glob.Cuts source.toList text.toList)) ∧
    (Query.containsWildcard source = true → ∀ exact,
      (((compileWith compiles source exact).grade text).isMatch = true ↔
        Glob.Cuts source.toList text.toList)) := by
  refine ⟨Glob.accepts_iff_cuts, ?_, ?_⟩
  · obtain ⟨items, reads, finds⟩ := Glob.Expression.finds_write source.toList
    exact ⟨items, reads, finds text.toList⟩
  · intro wild exact
    rw [compile_of_wildcard wild usable]
    exact isMatch_glob_iff

/-- Two stars, a mark for a line break, letters in another case, and characters that mean something
else in expressions. -/
theorem glob_iff_cuts_line_break :
    Glob.isUsable "*a+(b)?*ß".toList = true ∧
      Glob.Cuts "*a+(b)?*ß".toList "xA+(B)\ny\r\nẞ".toList ∧
      ((compile "*a+(b)?*ß" false).grade "xA+(B)\ny\r\nẞ").isMatch = true ∧
      ¬Glob.Cuts "*a+(b)?*ß".toList "xAA(B)\nyẞ".toList ∧
      ((compile "*a+(b)?*ß" false).grade "xAA(B)\nyẞ").isMatch = false := by
  have usable : Glob.isUsable "*a+(b)?*ß".toList = true := by decide +kernel
  have wild : Query.containsWildcard "*a+(b)?*ß" = true := by decide +kernel
  have taken := glob_iff_cuts usable "xA+(B)\ny\r\nẞ"
  have left := glob_iff_cuts usable "xAA(B)\nyẞ"
  have cut : Glob.Cuts "*a+(b)?*ß".toList "xA+(B)\ny\r\nẞ".toList :=
    taken.1.mp (by decide +kernel)
  have uncut : ¬Glob.Cuts "*a+(b)?*ß".toList "xAA(B)\nyẞ".toList :=
    fun cut => absurd (left.1.mpr cut) (by decide +kernel)
  refine ⟨usable, cut, (taken.2.2 wild false).mpr cut, uncut, ?_⟩
  rw [Bool.eq_false_iff]
  exact fun matched => uncut ((left.2.2 wild false).mp matched)

end Pattern

end Dossier
