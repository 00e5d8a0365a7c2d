import Dossier.Profile.Lookup
import Dossier.Proofs.Dict

/-!
Paths as addresses. A value has its parts by the segments that lead to them, and its leaves are
those of its parts, one segment further down. As long as no key has a dot, a path is read back into
the segments that it was written from, so that no two leaves share a path and each path leads to its
leaf.
-/

namespace Dossier

section Segments

theorem splitDots_eq_splitOn (cs : List Char) : splitDots cs = cs.splitOn '.' := by
  induction cs with
  | nil => rfl
  | cons c rest ih =>
    rw [splitDots, ih, List.splitOn_cons_eq_if_modifyHead]
    cases split : rest.splitOn '.' with
    | nil => exact absurd split (List.splitOn_ne_nil '.' rest)
    | cons s ss => simp only [beq_iff_eq, List.modifyHead_cons]

/-- A dot between two paths ends the segments of the first, whatever the two are. -/
theorem segments_append_dot (a b : String) :
    segments (a ++ "." ++ b) = segments a ++ segments b := by
  have dot : (a ++ "." ++ b).toList = a.toList ++ '.' :: b.toList := by
    rw [String.toList_append, String.toList_append, List.append_assoc]
    rfl
  rw [segments, dot, splitDots_eq_splitOn, List.splitOn_append_cons_self, List.map_append,
    ← splitDots_eq_splitOn, ← splitDots_eq_splitOn, ← segments, ← segments]

theorem segments_of_not_mem {s : String} (plain : '.' ∉ s.toList) : segments s = [s] := by
  rw [segments, splitDots_eq_splitOn, List.splitOn_eq_singleton plain, List.map_singleton,
    String.ofList_toList]

theorem segments_joinPath {path s : String} (filled : path ≠ "") (plain : '.' ∉ s.toList) :
    segments (Value.joinPath path s) = segments path ++ [s] := by
  have notEmpty : ¬path.isEmpty = true := by rwa [String.isEmpty_iff]
  rw [Value.joinPath, if_neg notEmpty, segments_append_dot, segments_of_not_mem plain]

theorem joinPath_ne_empty {path s : String} (filled : path ≠ "") : Value.joinPath path s ≠ "" := by
  have notEmpty : ¬path.isEmpty = true := by rwa [String.isEmpty_iff]
  rw [Value.joinPath, if_neg notEmpty]
  simp [filled]

theorem isDigit_of_mem_toString {i : Nat} {c : Char} (mem : c ∈ (toString i).toList) :
    c.isDigit = true := by
  rw [Nat.toString_eq_repr, Nat.toList_repr] at mem
  exact Nat.isDigit_of_mem_toDigits (by omega) (by omega) mem

theorem position?_toString {i : Nat} (short : i < Number.limit) :
    position? (toString i) = some i := by
  have digits : (toString i).toList = Nat.toDigits 10 i := by
    rw [Nat.toString_eq_repr, Nat.toList_repr]
  have filled : (Nat.toDigits 10 i).isEmpty = false :=
    List.isEmpty_eq_false_iff.mpr Nat.toDigits_ne_nil
  have all : (Nat.toDigits 10 i).all Char.isDigit = true := by
    rw [List.all_eq_true, ← digits]
    exact fun c => isDigit_of_mem_toString
  have value : Decimal.ofDigits 0 (Nat.toDigits 10 i) = i := Nat.ofDigitChars_ten_toDigits
  unfold position?
  rw [digits]
  split
  · rename_i rest signed
    rw [signed] at all
    cases all
  · dsimp only
    rw [filled, all, value, if_pos short]
    rfl

end Segments

namespace Value

variable {v : Value} {path : String}

/-- The parts of a value with the segments that lead to them; a scalar has none. -/
def parts : Value → List (String × Value)
  | .scalar _ => []
  | .sequence items => items.zipIdx.map fun part => (toString part.2, part.1)
  | .mapping entries => entries

theorem forall_mem_parts_sequence {test : Value → Bool} {items : List Value} :
    (∀ e ∈ (sequence items).parts, test e.2 = true) ↔ ∀ v ∈ items, test v = true := by
  constructor
  · intro holds v mem
    obtain ⟨i, short, rfl⟩ := List.mem_iff_getElem.mp mem
    have listed : (items[i], i) ∈ items.zipIdx :=
      List.mem_zipIdx_iff_getElem?.mpr (List.getElem?_eq_getElem short)
    exact holds _ (List.mem_map_of_mem listed)
  · intro holds e mem
    obtain ⟨part, listed, rfl⟩ := List.mem_map.mp mem
    exact holds _ (List.fst_mem_of_mem_zipIdx listed)

theorem sizeOf_lt_of_mem_parts {e : String × Value} (mem : e ∈ v.parts) :
    sizeOf e.2 < sizeOf v := by
  cases v with
  | scalar s => cases mem
  | sequence items =>
    obtain ⟨part, listed, rfl⟩ := List.mem_map.mp mem
    have smaller := List.sizeOf_lt_of_mem (List.fst_mem_of_mem_zipIdx listed)
    have part : sizeOf part.1 < sizeOf (sequence items) := by
      rw [sequence.sizeOf_spec]
      omega
    exact part
  | mapping entries =>
    have smaller : sizeOf e < sizeOf entries := List.sizeOf_lt_of_mem mem
    obtain ⟨key, w⟩ := e
    rw [Prod.mk.sizeOf_spec] at smaller
    have part : sizeOf w < sizeOf (mapping entries) := by
      rw [mapping.sizeOf_spec]
      omega
    exact part

theorem partsInduction {P : Value → Prop} (scalar : ∀ s, P (.scalar s))
    (parts : ∀ v, (∀ s, v ≠ .scalar s) → (∀ e ∈ v.parts, P e.2) → P v) (v : Value) : P v := by
  by_cases single : ∃ s, v = .scalar s
  · obtain ⟨s, rfl⟩ := single
    exact scalar s
  · refine parts v (fun s same => single ⟨s, same⟩) fun e mem => ?_
    have smaller := sizeOf_lt_of_mem_parts mem
    exact partsInduction scalar parts e.2
termination_by sizeOf v

theorem leaves_eq_flatMap (compound : ∀ s, v ≠ .scalar s) :
    v.leaves path = v.parts.flatMap fun e => e.2.leaves (joinPath path e.1) := by
  cases v with
  | scalar s => exact absurd rfl (compound s)
  | sequence items =>
    have onward (items : List Value) (i : Nat) : itemLeaves path i items =
        (items.zipIdx i).flatMap fun part => part.1.leaves (joinPath path (toString part.2)) := by
      induction items generalizing i with
      | nil => rfl
      | cons v rest ih =>
        rw [itemLeaves, ih, List.zipIdx_cons, List.flatMap_cons]
    rw [leaves, onward, parts, List.flatMap_map]
  | mapping entries =>
    have onward (entries : List (String × Value)) : entryLeaves path entries =
        entries.flatMap fun e => e.2.leaves (joinPath path e.1) := by
      induction entries with
      | nil => rfl
      | cons e rest ih => rw [entryLeaves, ih, List.flatMap_cons]
    exact onward entries

mutual

def all (test : Value → Bool) : Value → Bool
  | .scalar s => test (.scalar s)
  | .sequence items => test (.sequence items) && allItems test items
  | .mapping entries => test (.mapping entries) && allEntries test entries

def allItems (test : Value → Bool) : List Value → Bool
  | [] => true
  | v :: rest => all test v && allItems test rest

def allEntries (test : Value → Bool) : List (String × Value) → Bool
  | [] => true
  | (_, v) :: rest => all test v && allEntries test rest

end

theorem all_iff {test : Value → Bool} :
    v.all test = true ↔ test v = true ∧ ∀ e ∈ v.parts, e.2.all test = true := by
  cases v with
  | scalar s => simp [all, parts]
  | sequence items =>
    have each : allItems test items = true ↔ ∀ v ∈ items, v.all test = true := by
      induction items with
      | nil => simp [allItems]
      | cons v rest ih => simp [allItems, ih]
    rw [all, Bool.and_eq_true, each, forall_mem_parts_sequence]
  | mapping entries =>
    have each : allEntries test entries = true ↔ ∀ e ∈ entries, e.2.all test = true := by
      induction entries with
      | nil => simp [allEntries]
      | cons e rest ih => simp [allEntries, ih]
    rw [all, Bool.and_eq_true, each, parts]

def ordersKeys : Value → Bool
  | .mapping entries => decide (Ordered entries)
  | _ => true

def hasPlainKeys : Value → Bool
  | .mapping entries => entries.all fun e => !e.1.toList.contains '.'
  | _ => true

def hasPositions : Value → Bool
  | .sequence items => decide (items.length ≤ Number.limit)
  | _ => true

theorem isKeyed_iff :
    v.isKeyed = true ↔ v.ordersKeys = true ∧ ∀ e ∈ v.parts, e.2.isKeyed = true := by
  cases v with
  | scalar s => simp [isKeyed, ordersKeys, parts]
  | sequence items =>
    have each : areKeyed items = true ↔ ∀ v ∈ items, v.isKeyed = true := by
      induction items with
      | nil => simp [areKeyed]
      | cons v rest ih => simp [areKeyed, ih]
    have ordered : (sequence items).ordersKeys = true := rfl
    rw [isKeyed, each, forall_mem_parts_sequence, and_iff_right ordered]
  | mapping entries =>
    rw [isKeyed, Bool.and_eq_true, entriesKeyed_iff, ordersKeys, parts]

theorem all_ordersKeys (keyed : v.isKeyed = true) : v.all ordersKeys = true := by
  induction v using partsInduction with
  | scalar s => rfl
  | parts v compound ih =>
    obtain ⟨ordered, parts⟩ := isKeyed_iff.mp keyed
    exact all_iff.mpr ⟨ordered, fun e mem => ih e mem (parts e mem)⟩

/-- The segments to the parts of a value and of all inside it tell the parts apart and can be
written into a path. -/
structure Addressed (v : Value) : Prop where
  ordered : v.all ordersKeys = true
  plain : v.all hasPlainKeys = true
  positions : v.all hasPositions = true

namespace Addressed

variable {e : String × Value}

theorem part (addressed : v.Addressed) (mem : e ∈ v.parts) : e.2.Addressed where
  ordered := (all_iff.mp addressed.ordered).2 e mem
  plain := (all_iff.mp addressed.plain).2 e mem
  positions := (all_iff.mp addressed.positions).2 e mem

theorem ordered_entries {entries : List (String × Value)}
    (addressed : (mapping entries).Addressed) : Ordered entries :=
  of_decide_eq_true (all_iff.mp addressed.ordered).1

theorem length_le_limit {items : List Value} (addressed : (sequence items).Addressed) :
    items.length ≤ Number.limit :=
  of_decide_eq_true (all_iff.mp addressed.positions).1

theorem not_mem_segment (addressed : v.Addressed) (mem : e ∈ v.parts) : '.' ∉ e.1.toList := by
  have plain := (all_iff.mp addressed.plain).1
  cases v with
  | scalar s => cases mem
  | sequence items =>
    obtain ⟨part, -, rfl⟩ := List.mem_map.mp mem
    intro dot
    have digit := isDigit_of_mem_toString dot
    cases digit
  | mapping entries =>
    have dotless := List.all_eq_true.mp plain e mem
    simpa using dotless

theorem step?_eq_some (addressed : v.Addressed) (mem : e ∈ v.parts) :
    v.step? e.1 = some e.2 := by
  cases v with
  | scalar s => cases mem
  | sequence items =>
    obtain ⟨⟨w, i⟩, listed, rfl⟩ := List.mem_map.mp mem
    have item : items[i]? = some w := List.mem_zipIdx_iff_getElem?.mp listed
    have inside : i < items.length := (List.getElem?_eq_some_iff.mp item).1
    have few := addressed.length_le_limit
    rw [step?, position?_toString (by omega), Option.bind_some, item]
  | mapping entries => exact lookup?_of_mem addressed.ordered_entries mem

theorem distinct (addressed : v.Addressed) : v.parts.Pairwise fun e f => e.1 ≠ f.1 := by
  cases v with
  | scalar s => exact .nil
  | sequence items =>
    have few := addressed.length_le_limit
    rw [parts, List.pairwise_map, List.pairwise_iff_getElem]
    intro i j first second less same
    rw [List.length_zipIdx] at first second
    have equal := congrArg position? same
    simp only [List.getElem_zipIdx, Nat.zero_add] at equal
    rw [position?_toString (by omega), position?_toString (by omega)] at equal
    cases equal
    exact Nat.lt_irrefl _ less
  | mapping entries => exact addressed.ordered_entries.imp String.ne_of_lt

end Addressed

/-- Each leaf is reached from the value by the segments that its path has below that of the
value. -/
theorem exists_walk?_of_mem_leaves {leaf : String × Scalar} (addressed : v.Addressed)
    (filled : path ≠ "") (mem : leaf ∈ v.leaves path) :
    ∃ below, segments leaf.1 = segments path ++ below ∧
      v.walk? below = some (.scalar leaf.2) := by
  induction v using partsInduction generalizing path with
  | scalar s =>
    obtain rfl := List.mem_singleton.mp mem
    exact ⟨[], (List.append_nil _).symm, rfl⟩
  | parts v compound ih =>
    rw [leaves_eq_flatMap compound] at mem
    obtain ⟨e, part, mem⟩ := List.mem_flatMap.mp mem
    obtain ⟨below, split, walk⟩ := ih e part (addressed.part part) (joinPath_ne_empty filled) mem
    refine ⟨e.1 :: below, ?_, ?_⟩
    · rw [split, segments_joinPath filled (addressed.not_mem_segment part), List.append_assoc,
        List.singleton_append]
    · rw [walk?, addressed.step?_eq_some part, Option.bind_some, walk]

theorem mem_parts_of_step? {segment : String} {w : Value} (step : v.step? segment = some w) :
    ∃ key, (key, w) ∈ v.parts := by
  cases v with
  | scalar s => cases step
  | sequence items =>
    obtain ⟨i, -, item⟩ := Option.bind_eq_some_iff.mp step
    have listed : (w, i) ∈ items.zipIdx := List.mem_zipIdx_iff_getElem?.mpr item
    exact ⟨toString i, List.mem_map_of_mem listed⟩
  | mapping entries => exact ⟨segment, mem_of_lookup? step⟩

/-- Every scalar that is reached from a value is one of its leaves. A position may be written in
more than one way, so that the path need not be the one that led there. -/
theorem exists_mem_leaves_of_walk? {below : List String} {s : Scalar}
    (walk : v.walk? below = some (.scalar s)) : ∃ place, (place, s) ∈ v.leaves path := by
  induction below generalizing v path with
  | nil =>
    cases walk
    exact ⟨path, List.mem_singleton.mpr rfl⟩
  | cons segment rest ih =>
    obtain ⟨w, step, walk⟩ := Option.bind_eq_some_iff.mp walk
    obtain ⟨key, part⟩ := mem_parts_of_step? step
    have compound : ∀ s, v ≠ .scalar s := by
      rintro s rfl
      cases step
    obtain ⟨place, listed⟩ := ih walk
    rw [leaves_eq_flatMap compound]
    exact ⟨place, List.mem_flatMap.mpr ⟨(key, w), part, listed⟩⟩

theorem pairwise_leaves (place : String → String) (above : List String)
    (addressed : v.Addressed) (filled : ∀ e ∈ v.parts, place e.1 ≠ "")
    (placed : ∀ e ∈ v.parts, segments (place e.1) = above ++ [e.1])
    (inside : ∀ e ∈ v.parts, (e.2.leaves (place e.1)).Pairwise fun a b => a.1 ≠ b.1) :
    (v.parts.flatMap fun e => e.2.leaves (place e.1)).Pairwise fun a b => a.1 ≠ b.1 := by
  refine List.pairwise_flatMap.mpr ⟨inside, ?_⟩
  refine addressed.distinct.imp_of_mem ?_
  intro e f first second different a left b right same
  -- Right after the segments that they share, the paths have those of the two parts.
  obtain ⟨x, toLeft, -⟩ := exists_walk?_of_mem_leaves (addressed.part first) (filled e first) left
  obtain ⟨y, toRight, -⟩ :=
    exists_walk?_of_mem_leaves (addressed.part second) (filled f second) right
  rw [same, toRight, placed e first, placed f second, List.append_assoc, List.append_assoc,
    List.append_cancel_left_eq, List.singleton_append, List.singleton_append] at toLeft
  exact different (List.cons.inj toLeft).1.symm

theorem leaves_distinct (addressed : v.Addressed) (filled : path ≠ "") :
    (v.leaves path).Pairwise fun a b => a.1 ≠ b.1 := by
  induction v using partsInduction generalizing path with
  | scalar s => exact List.pairwise_singleton _ _
  | parts v compound ih =>
    rw [leaves_eq_flatMap compound]
    apply pairwise_leaves (joinPath path) (segments path) addressed
    · exact fun e _ => joinPath_ne_empty filled
    · exact fun e mem => segments_joinPath filled (addressed.not_mem_segment mem)
    · exact fun e mem => ih e mem (addressed.part mem) (joinPath_ne_empty filled)

end Value

namespace Profile

variable {p : Profile}

/-- The sections have names, neither these nor any key inside has a dot, and no sequence is longer
than positions of 64 bits reach, as none in memory is. -/
structure IsPlain (p : Profile) : Prop where
  named : ∀ e ∈ p.sections, e.1 ≠ ""
  keys : (Value.mapping p.sections).all Value.hasPlainKeys = true
  positions : (Value.mapping p.sections).all Value.hasPositions = true

theorem IsPlain.addressed (plain : p.IsPlain) : (Value.mapping p.sections).Addressed :=
  ⟨Value.all_ordersKeys p.keyed, plain.keys, plain.positions⟩

theorem get?_of_segments {path name : String} {below : List String} {v : Value}
    (split : segments path = name :: below) (named : name ≠ "")
    (known : (name, v) ∈ p.sections) : p.get? path = v.walk? below := by
  have ordered : Ordered p.sections := of_decide_eq_true (Value.isKeyed_iff.mp p.keyed).1
  have notEmpty : ¬name.isEmpty = true := by rwa [String.isEmpty_iff]
  rw [get?, split]
  dsimp only
  rw [if_neg notEmpty, lookup?_of_mem ordered known, Option.bind_some]

theorem IsPlain.get?_of_mem_leaves {path : String} {s : Scalar} (plain : p.IsPlain)
    (mem : (path, s) ∈ p.leaves) : p.get? path = some (.scalar s) := by
  obtain ⟨e, known, mem⟩ := List.mem_flatMap.mp mem
  have name := segments_of_not_mem (plain.addressed.not_mem_segment known)
  obtain ⟨below, split, walk⟩ := Value.exists_walk?_of_mem_leaves
    (plain.addressed.part known) (plain.named e known) mem
  rw [name, List.singleton_append] at split
  rw [get?_of_segments split (plain.named e known) known, walk]

theorem exists_mem_leaves_of_get? {path : String} {s : Scalar}
    (found : p.get? path = some (.scalar s)) : ∃ place, (place, s) ∈ p.leaves := by
  unfold get? at found
  split at found
  · cases found
  · split at found
    · cases found
    · obtain ⟨v, known, walk⟩ := Option.bind_eq_some_iff.mp found
      obtain ⟨place, listed⟩ := Value.exists_mem_leaves_of_walk? walk
      exact ⟨place, List.mem_flatMap.mpr ⟨(_, v), mem_of_lookup? known, listed⟩⟩

/-- The paths of the leaves are addresses: no two leaves share one, each leads to its leaf, and
there is no scalar that a path leads to but the leaves. -/
theorem leaves_addressed (plain : p.IsPlain) :
    (p.leaves.map (·.1)).Nodup ∧
      (∀ path s, (path, s) ∈ p.leaves → p.get? path = some (.scalar s)) ∧
      ∀ path s, p.get? path = some (.scalar s) → ∃ place, (place, s) ∈ p.leaves := by
  refine ⟨?_, ?_, ?_⟩
  · have addressed := plain.addressed
    have distinct : p.leaves.Pairwise fun a b => a.1 ≠ b.1 := by
      apply Value.pairwise_leaves id [] addressed plain.named
      · exact fun e mem => segments_of_not_mem (addressed.not_mem_segment mem)
      · exact fun e mem => Value.leaves_distinct (addressed.part mem) (plain.named e mem)
    exact List.pairwise_map.mpr distinct
  · exact fun path s mem => plain.get?_of_mem_leaves mem
  · exact fun path s found => exists_mem_leaves_of_get? found

/-- Sequences and mappings inside each other, and a key that is empty. -/
theorem leaves_addressed_nested :
    let p : Profile := ⟨[("core", .mapping [("", .scalar (.text "Ann")), ("phones", .sequence
      [.scalar (.text "1"), .mapping [("kind", .scalar (.text "home"))]])]),
      ("tags", .scalar .null)], rfl⟩
    p.IsPlain ∧ (p.leaves.map (·.1)).Nodup ∧
      (∀ path s, (path, s) ∈ p.leaves → p.get? path = some (.scalar s)) ∧
      (∀ path s, p.get? path = some (.scalar s) → ∃ place, (place, s) ∈ p.leaves) ∧
      p.leaves.map (·.1) = ["core.", "core.phones.0", "core.phones.1.kind", "tags"] := by
  intro p
  have plain : p.IsPlain := ⟨by decide, by decide, by decide⟩
  obtain ⟨distinct, found, complete⟩ := leaves_addressed plain
  exact ⟨plain, distinct, found, complete, by decide⟩

-- With a dot in a key two leaves may share a path.
example :
    let inner : Value := .mapping [("b", .scalar .null)]
    let v : Value := .mapping [("a", inner), ("a.b", .scalar (.bool true))]
    (v.leaves "core").map (·.1) = ["core.a.b", "core.a.b"] := by decide

end Profile

end Dossier
