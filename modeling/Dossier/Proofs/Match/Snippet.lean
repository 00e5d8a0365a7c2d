import Dossier.Proofs.Match.Highlight
import Mathlib.Data.Nat.Find
import Mathlib.Order.Bounds.Basic

/-!
What a snippet shows. The first occurrence of the needle is marked where it stands in the text, with
a window of context to each side; cutting the window position by position gives the same, as long as
the end of the window is a position of 64 bits. The marker of approximate snippets may begin an
exact one too, where the text itself begins with it.
-/

namespace Dossier.Snippet

variable {text needle : List Char} {context i : Nat}

/-- From a position on the text reads as the needle does, case set aside. -/
def Stands (text needle : List Char) (i : Nat) : Prop :=
  Text.fold ((text.drop i).take needle.length) = Text.fold needle

theorem stands_iff_begins :
    Stands text needle i ↔ Text.fold needle <+: (Text.fold text).drop i := by
  unfold Stands Text.fold
  rw [List.prefix_iff_eq_take, List.length_map, List.map_take, List.map_drop]
  exact eq_comm

theorem find?_eq_some_iff :
    find? text needle = some i ↔ needle ≠ [] ∧ IsLeast {j | Stands text needle j} i := by
  rw [find?, Option.ite_none_left_eq_some, List.isEmpty_iff, Text.occurrence?_eq_some_iff,
    ← stands_iff_begins]
  constructor
  · rintro ⟨filled, stands, least⟩
    refine ⟨filled, stands, ?_⟩
    intro j later
    by_contra below
    exact least j (by omega) (stands_iff_begins.mp later)
  · rintro ⟨filled, stands, least⟩
    refine ⟨filled, stands, ?_⟩
    intro j below earlier
    have notBelow : i ≤ j := least (stands_iff_begins.mpr earlier)
    omega

theorem find?_eq_none_iff :
    find? text needle = none ↔ needle = [] ∨ ∀ j, ¬Stands text needle j := by
  constructor
  · intro missing
    by_cases empty : needle = []
    · exact .inl empty
    · refine .inr fun j stands => ?_
      have somewhere : ∃ j, Stands text needle j := ⟨j, stands⟩
      classical
      have found : find? text needle = some (Nat.find somewhere) :=
        find?_eq_some_iff.mpr ⟨empty, Nat.find_spec somewhere, fun _ => Nat.find_min' somewhere⟩
      rw [missing] at found
      cases found
  · intro nowhere
    refine Option.eq_none_iff_forall_ne_some.mpr fun i found => ?_
    obtain ⟨filled, stands, -⟩ := find?_eq_some_iff.mp found
    rcases nowhere with empty | nowhere
    · exact filled empty
    · exact nowhere i stands

theorem find?_of_marked? {s : List Char} (shown : marked? text needle context = some s) :
    ∃ i, find? text needle = some i ∧ s = window text i needle.length context := by
  cases found : find? text needle with
  | none =>
    rw [marked?, found] at shown
    cases shown
  | some i =>
    rw [marked?, found] at shown
    obtain ⟨-, same⟩ := Option.ite_none_right_eq_some.mp shown
    exact ⟨i, rfl, (Option.some.inj same).symm⟩

/-- A text in five parts. The middle one is marked and has some context to each side; what lies
further out is left out. -/
structure Excerpt (text : List Char) (i length context : Nat) where
  left : List Char
  before : List Char
  span : List Char
  after : List Char
  right : List Char
  whole : text = left ++ before ++ span ++ after ++ right
  start : left.length + before.length = i
  length_span : span.length = length
  length_before : before.length = min i context
  length_after : after.length = min context (text.length - (i + length))

namespace Excerpt

variable {length : Nat}

/-- The marked part in its context. Dots stand for what is left out. -/
def snippet (e : Excerpt text i length context) : List Char :=
  (if context < i then ellipsis else []) ++ e.before ++ mark ++ e.span ++ mark ++ e.after ++
    if e.right = [] then [] else ellipsis

def around (inside : i + length ≤ text.length) (context : Nat) : Excerpt text i length context where
  left := text.take (i - context)
  before := (text.take i).drop (i - context)
  span := (text.drop i).take length
  after := (text.drop (i + length)).take context
  right := (text.drop (i + length)).drop context
  whole := by
    have first : text.take (i - context) ++ (text.take i).drop (i - context) = text.take i := by
      have shorter : text.take (i - context) = (text.take i).take (i - context) := by
        rw [List.take_take, Nat.min_eq_left (by omega)]
      rw [shorter, List.take_append_drop]
    rw [first, ← List.take_add, List.append_assoc, List.take_append_drop, List.take_append_drop]
  start := by
    rw [List.length_take, List.length_drop, List.length_take]
    omega
  length_span := by
    rw [List.length_take, List.length_drop]
    omega
  length_before := by
    rw [List.length_drop, List.length_take]
    omega
  length_after := by
    rw [List.length_take, List.length_drop]

theorem right_around_eq_nil_iff (inside : i + length ≤ text.length) :
    (around inside context).right = [] ↔ ¬context < (text.drop (i + length)).length := by
  have right : (around inside context).right = (text.drop (i + length)).drop context := rfl
  rw [right, List.drop_eq_nil_iff, Nat.not_lt]

theorem window_eq_around (inside : i + length ≤ text.length) :
    window text i length context = (around inside context).snippet := by
  rw [window, snippet]
  by_cases more : context < (text.drop (i + length)).length
  · rw [if_pos more, if_neg fun none => (right_around_eq_nil_iff inside).mp none more]
    rfl
  · rw [if_neg more, if_pos ((right_around_eq_nil_iff inside).mpr more)]
    rfl

end Excerpt

section Cut

variable {length : Nat}

theorem add_of_lt {j : Nat} (short : i + j < UInt64.size) : add i j = .ok (i + j) := if_pos short

theorem add_of_ge {j : Nat} (long : UInt64.size ≤ i + j) : add i j = .error .overflow :=
  if_neg (by omega)

theorem between_of_le (cs : List Char) {j : Nat} (ordered : i ≤ j) (inside : j ≤ cs.length) :
    between cs i j = .ok ((cs.take j).drop i) := if_pos ⟨ordered, inside⟩

theorem ok_bind {α β : Type} (a : α) (f : α → Except Abort β) : (Except.ok a >>= f) = f a := rfl

theorem error_bind {α β : Type} (a : Abort) (f : α → Except Abort β) :
    (Except.error a >>= f) = .error a := rfl

theorem cutWindow_of_lt (inside : i + length ≤ text.length)
    (short : i + length + context < UInt64.size) :
    cutWindow text i length context = .ok (window text i length context) := by
  have least : Nat.min (i + length + context) text.length =
      min (i + length + context) text.length := rfl
  have before := between_of_le text (Nat.sub_le i context) (by omega : i ≤ text.length)
  have span := between_of_le text (Nat.le_add_right i length) inside
  have last : i + length ≤ Nat.min (i + length + context) text.length := by omega
  have after := between_of_le text last (by omega)
  have marked : (text.take (i + length)).drop i = (text.drop i).take length := by
    rw [List.drop_take, Nat.add_sub_cancel_left]
  have shown : (text.take (Nat.min (i + length + context) text.length)).drop (i + length) =
      (text.drop (i + length)).take context := by
    rw [List.drop_take, List.take_eq_take_iff, List.length_drop]
    omega
  have more : Nat.min (i + length + context) text.length < text.length ↔
      context < (text.drop (i + length)).length := by
    rw [List.length_drop]
    omega
  rw [cutWindow, add_of_lt (by omega), ok_bind, add_of_lt short, ok_bind, before, ok_bind, span,
    ok_bind, after, ok_bind, marked, shown, window]
  simp only [Nat.sub_pos_iff_lt, more]
  rfl

theorem cutWindow_of_ge (long : UInt64.size ≤ i + length + context) :
    cutWindow text i length context = .error .overflow := by
  unfold cutWindow
  by_cases short : i + length < UInt64.size
  · rw [add_of_lt short, ok_bind, add_of_ge long, error_bind]
  · rw [add_of_ge (by omega), error_bind]

/-- The occurrence that is found among the bytes is the first one among the characters. -/
theorem cut_eq : cut text needle context =
    (find? text needle).elim (.ok none) fun i =>
      (cutWindow text i needle.length context).map some := by
  have same : (Text.fold needle).isEmpty = needle.isEmpty := List.isEmpty_map
  unfold cut find?
  dsimp only
  rw [same]
  by_cases empty : needle.isEmpty = true
  · rw [if_pos empty, if_pos empty]
    rfl
  · have filled : String.ofList (Text.fold needle) ≠ "" := by
      rw [ne_eq, String.ofList_eq_empty_iff, ← List.isEmpty_iff, same]
      exact empty
    rw [if_neg empty, if_neg empty, Text.byteOccurrence?_eq filled, String.toList_ofList,
      String.toList_ofList]
    cases Text.occurrence? (Text.fold needle) (Text.fold text) with
    | none => rfl
    | some i => rfl

theorem cut_of_overflows (long : Overflows text needle context) :
    cut text needle context = .error .overflow := by
  obtain ⟨i, found, long⟩ := long
  rw [cut_eq, found, Option.elim_some, cutWindow_of_ge long]
  rfl

theorem cut_of_not_overflows (short : ¬Overflows text needle context) :
    cut text needle context = .ok (marked? text needle context) := by
  cases found : find? text needle with
  | none =>
    rw [cut_eq, marked?, found]
    rfl
  | some i =>
    have fits : i + needle.length + context < UInt64.size := by
      by_contra long
      exact short ⟨i, found, Nat.not_lt.mp long⟩
    rw [cut_eq, marked?_of_find? found short, found, Option.elim_some,
      cutWindow_of_lt (add_length_le_of_find? found) fits]
    rfl

/-- Cutting a snippet, whatever the context: only the end of the window can be out of bounds, and it
is so just if it passes 64 bits. -/
structure CutsInside (text needle : List Char) (context : Nat) : Prop where
  aborts : ∀ a, cut text needle context = .error a ↔
    a = .overflow ∧ Overflows text needle context
  gives : ∀ s, cut text needle context = .ok s → marked? text needle context = s
  /-- The four positions that the parts of the window are cut at are in order inside the text. -/
  ordered : ∀ i, find? text needle = some i →
    i - context ≤ i ∧ i + needle.length ≤ Nat.min (i + needle.length + context) text.length ∧
      Nat.min (i + needle.length + context) text.length ≤ text.length

theorem cut_inside (text needle : List Char) (context : Nat) : CutsInside text needle context := by
  constructor
  case aborts =>
    intro a
    by_cases long : Overflows text needle context
    · rw [cut_of_overflows long]
      constructor
      · intro same
        cases same
        exact ⟨rfl, long⟩
      · rintro ⟨rfl, -⟩
        rfl
    · rw [cut_of_not_overflows long]
      constructor
      · intro same
        cases same
      · rintro ⟨-, passes⟩
        exact absurd passes long
  case gives =>
    intro s cutOff
    by_cases long : Overflows text needle context
    · rw [cut_of_overflows long] at cutOff
      cases cutOff
    · rw [cut_of_not_overflows long] at cutOff
      exact Except.ok.inj cutOff
  case ordered =>
    intro i found
    have inside := add_length_le_of_find? found
    exact ⟨Nat.sub_le i context, Nat.le_min.mpr ⟨Nat.le_add_right _ _, inside⟩,
      Nat.min_le_right _ _⟩

/-- With the greatest context there is, the end of a window passes 64 bits. -/
theorem widest_window_overflows :
    let text := "Ann Lee".toList
    let needle := "ann".toList
    let context := UInt64.size - 1
    context < UInt64.size ∧ find? text needle = some 0 ∧
      cut text needle context = .error .overflow ∧
      approximate text context = "≈ Ann Lee".toList := by
  intro text needle context
  have found : find? text needle = some 0 := by decide +kernel
  exact ⟨by decide, found, cut_of_overflows ⟨0, found, by decide⟩, by decide +kernel⟩

end Cut

/-- The first occurrence of the needle, and the snippet that marks it. -/
structure MarksFirst (text needle : List Char) (context : Nat) : Prop where
  found : ∀ i, find? text needle = some i ↔ needle ≠ [] ∧ IsLeast {j | Stands text needle j} i
  missing : find? text needle = none ↔ needle = [] ∨ ∀ j, ¬Stands text needle j
  unmarked : marked? text needle context = none ↔ find? text needle = none
  marked : ∀ i, find? text needle = some i → ∃ e : Excerpt text i needle.length context,
    Text.fold e.span = Text.fold needle ∧ marked? text needle context = some e.snippet
  /-- The same comes of searching the bytes and cutting position by position. -/
  cut : Snippet.cut text needle context = .ok (marked? text needle context)

theorem marked_first (short : text.length + needle.length + context < UInt64.size) :
    MarksFirst text needle context := by
  have fits : Fits context text := by
    unfold Fits
    omega
  have short : ¬Overflows text needle context := not_overflows_of_fits fits
  constructor
  case found => exact fun i => find?_eq_some_iff
  case missing => exact find?_eq_none_iff
  case unmarked =>
    constructor
    · intro none
      cases found : find? text needle with
      | none => rfl
      | some i =>
        rw [marked?_of_find? found short] at none
        cases none
    · intro missing
      rw [marked?, missing]
  case marked =>
    intro i found
    have inside := add_length_le_of_find? found
    refine ⟨Excerpt.around inside context, (find?_eq_some_iff.mp found).2.1, ?_⟩
    rw [marked?_of_find? found short, Excerpt.window_eq_around inside]
  case cut => exact cut_of_not_overflows short

/-- The letters before the needle and its first one, a Kelvin sign, take fewer bytes when they are
folded. -/
theorem marked_first_kelvin :
    let text := "İzmir, \u212Aayseri, Ankara".toList
    let needle := "KAYSERI".toList
    text.length + needle.length + 3 < UInt64.size ∧ MarksFirst text needle 3 ∧
      find? text needle = some 7 ∧
      marked? text needle 3 = some "...r, **\u212Aayseri**, A...".toList := by
  intro text needle
  have short : text.length + needle.length + 3 < UInt64.size := by decide +kernel
  exact ⟨short, marked_first short, by decide +kernel, by decide +kernel⟩

section Marker

theorem isApproximate_approximate (text : List Char) (context : Nat) :
    isApproximate (approximate text context) = true :=
  List.isPrefixOf_iff_prefix.mpr (List.prefix_append _ _)

theorem isApproximate_cons_cons (a b : Char) (rest : List Char) :
    isApproximate (a :: b :: rest) = true ↔ a = '≈' ∧ b = ' ' := by
  simp only [isApproximate, approximateMarker, List.isPrefixOf_cons_cons, List.isPrefixOf_nil_left,
    Bool.and_true, Bool.and_eq_true, beq_iff_eq]
  exact and_congr eq_comm eq_comm

/-- A window begins with the marker if the text does, as long as the window reaches back to its
start and the mark leaves the marker whole. -/
theorem isApproximate_window_iff {length : Nat} (inside : i + length ≤ text.length) :
    isApproximate (window text i length context) = true ↔
      isApproximate text = true ∧ 2 ≤ i ∧ i ≤ context := by
  by_cases far : context < i
  · have dots : ∃ tail, window text i length context = '.' :: '.' :: tail := by
      rw [window, if_pos far]
      exact ⟨_, rfl⟩
    obtain ⟨tail, dots⟩ := dots
    rw [dots, isApproximate_cons_cons]
    constructor
    · rintro ⟨dot, -⟩
      exact absurd dot (by decide)
    · rintro ⟨-, -, near⟩
      omega
  · have start : ∃ tail, window text i length context = text.take i ++ '*' :: '*' :: tail := by
      rw [window, if_neg far, Nat.sub_eq_zero_of_le (by omega), List.drop_zero, List.nil_append]
      simp only [mark, List.append_assoc]
      exact ⟨_, rfl⟩
    obtain ⟨tail, start⟩ := start
    rw [start]
    -- The mark stands in the place of the marker, splits it, or comes after it.
    rcases i with _ | _ | i
    · rw [List.take_zero, List.nil_append, isApproximate_cons_cons]
      constructor
      · rintro ⟨star, -⟩
        exact absurd star (by decide)
      · rintro ⟨-, behind, -⟩
        omega
    · obtain ⟨a, rest, rfl⟩ := List.exists_cons_of_length_pos (by omega : 0 < text.length)
      have one : (a :: rest).take (0 + 1) ++ '*' :: '*' :: tail = a :: '*' :: '*' :: tail := rfl
      rw [one, isApproximate_cons_cons]
      constructor
      · rintro ⟨-, star⟩
        exact absurd star (by decide)
      · rintro ⟨-, behind, -⟩
        omega
    · obtain ⟨a, others, rfl⟩ := List.exists_cons_of_length_pos (by omega : 0 < text.length)
      rw [List.length_cons] at inside
      obtain ⟨b, rest, rfl⟩ := List.exists_cons_of_length_pos (by omega : 0 < others.length)
      have two : (a :: b :: rest).take (i + 1 + 1) ++ '*' :: '*' :: tail =
          a :: b :: (rest.take i ++ '*' :: '*' :: tail) := rfl
      rw [two, isApproximate_cons_cons, isApproximate_cons_cons]
      constructor
      · intro begins
        exact ⟨begins, by omega, by omega⟩
      · exact And.left

/-- An approximate snippet has the marker in front. An exact one has it too where the text has it,
if the occurrence stands behind it and no further from the start than the context reaches. -/
theorem approximate_marker (text needle : List Char) (context : Nat) :
    isApproximate (approximate text context) = true ∧
      ∀ s, marked? text needle context = some s →
        (isApproximate s = true ↔ isApproximate text = true ∧
          ∃ i, find? text needle = some i ∧ 2 ≤ i ∧ i ≤ context) := by
  refine ⟨isApproximate_approximate text context, ?_⟩
  intro s shown
  obtain ⟨i, found, rfl⟩ := find?_of_marked? shown
  rw [isApproximate_window_iff (add_length_le_of_find? found), found]
  refine and_congr_right fun _ => ?_
  constructor
  · intro behind
    exact ⟨i, rfl, behind⟩
  · rintro ⟨j, same, behind⟩
    cases same
    exact behind

/-- Two exact snippets that begin with the marker. The second is the very text that it is cut
from. -/
theorem exact_snippet_with_marker :
    marked? "≈ Ann Lee".toList "ann".toList 50 = some "≈ **Ann** Lee".toList ∧
      isApproximate "≈ **Ann** Lee".toList = true ∧
      marked? "≈ *********...".toList "*".toList 4 = some "≈ *********...".toList ∧
      isApproximate "≈ *********...".toList = true := by
  decide +kernel

end Marker

end Dossier.Snippet
