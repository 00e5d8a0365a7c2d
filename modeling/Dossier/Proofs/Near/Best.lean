import Dossier.Proofs.Near.Search
import Dossier.Proofs.Search.Score

/-!
The first best text of a record. A text counts by the greatest of its own similarity and those of
its words, and a record by the first of its texts that none exceeds: what comes before it is less
similar, and what comes after is no more so.
-/

namespace Dossier.Near

structure IsGreatest (x : Float) (values : List Float) : Prop where
  mem : x ∈ values
  bound : ∀ y ∈ values, y ≤ x

theorem IsGreatest.of_same_members {x : Float} {values values' : List Float}
    (greatest : IsGreatest x values) (same : ∀ y, y ∈ values ↔ y ∈ values') :
    IsGreatest x values' where
  mem := (same x).mp greatest.mem
  bound := fun y mem => greatest.bound y ((same y).mpr mem)

section Better

variable {best next : Option Float} {x : Float}

theorem better_eq_none_iff : better best next = none ↔ best = none ∧ next = none := by
  cases best with
  | none => simp [better]
  | some b => cases next <;> simp [better]

theorem isGreatest_better (number : ∀ y ∈ best.toList ++ next.toList, y.isNaN = false)
    (chosen : better best next = some x) : IsGreatest x (best.toList ++ next.toList) := by
  cases best with
  | none =>
    cases next with
    | none => cases chosen
    | some n =>
      cases chosen
      exact ⟨by simp, by simpa using Score.le_refl (number x (by simp))⟩
  | some b =>
    have hb : b.isNaN = false := number b (by simp)
    cases next with
    | none =>
      cases chosen
      exact ⟨by simp, by simpa using Score.le_refl hb⟩
    | some n =>
      have hn : n.isNaN = false := number n (by simp)
      have chosen : Decimal.greater b n = x := Option.some.inj chosen
      rw [Decimal.greater, hb, Bool.or_false] at chosen
      simp only [decide_eq_true_eq] at chosen
      by_cases lt : b < n
      · rw [if_pos lt] at chosen
        subst chosen
        exact ⟨by simp, by simpa using ⟨Score.le_of_lt hb hn lt, Score.le_refl hn⟩⟩
      · rw [if_neg lt] at chosen
        subst chosen
        exact ⟨by simp, by simpa using ⟨Score.le_refl hb, Score.le_of_not_lt hb hn lt⟩⟩

variable {α : Type} {f : α → Option Float} {as : List α}

theorem foldl_better_eq_none_iff :
    as.foldl (fun best a => better best (f a)) best = none ↔ best = none ∧ as.filterMap f = [] := by
  induction as generalizing best with
  | nil => simp
  | cons a rest ih =>
    rw [List.foldl_cons, ih, better_eq_none_iff]
    cases value : f a with
    | none => simp [value]
    | some y => simp [value]

/-- The greatest of what is given and of what the items have. -/
theorem isGreatest_foldl_better (number : ∀ y ∈ best.toList ++ as.filterMap f, y.isNaN = false)
    (chosen : as.foldl (fun best a => better best (f a)) best = some x) :
    IsGreatest x (best.toList ++ as.filterMap f) := by
  induction as generalizing best with
  | nil =>
    cases chosen
    exact ⟨by simp, by simpa using Score.le_refl (number x (by simp))⟩
  | cons a rest ih =>
    have split : (a :: rest).filterMap f = (f a).toList ++ rest.filterMap f := by
      cases value : f a <;> simp [value]
    rw [split, ← List.append_assoc] at number ⊢
    rw [List.foldl_cons] at chosen
    cases first : better best (f a) with
    | none =>
      obtain ⟨none, absent⟩ := better_eq_none_iff.mp first
      rw [first] at chosen
      rw [none, absent] at number ⊢
      have greatest : IsGreatest x (Option.none.toList ++ rest.filterMap f) := ih number chosen
      exact greatest
    | some z =>
      have top := isGreatest_better (fun y mem => number y (List.mem_append_left _ mem)) first
      rw [first] at chosen
      have numbers : ∀ y ∈ (some z).toList ++ rest.filterMap f, y.isNaN = false := by
        intro y mem
        rcases List.mem_append.mp mem with mem | mem
        · obtain rfl : y = z := by simpa using mem
          exact number y (List.mem_append_left _ top.mem)
        · exact number y (List.mem_append_right _ mem)
      obtain ⟨mem, bound⟩ := ih numbers chosen
      have le : z ≤ x := bound z (by simp)
      refine ⟨?_, ?_⟩
      · rcases List.mem_append.mp mem with mem | mem
        · obtain rfl : x = z := by simpa using mem
          exact List.mem_append_left _ top.mem
        · exact List.mem_append_right _ mem
      · intro y listed
        rcases List.mem_append.mp listed with earlier | later
        · exact Score.le_trans (number y listed) (numbers z (by simp)) (numbers x mem)
            (top.bound y earlier) le
        · exact bound y (List.mem_append_right _ later)

end Better

section Text

variable {s : Similarity} {query text : String} {x : Float}

/-- All that the measure gives is finite; it may give nothing. -/
def Similarity.IsFinite (s : Similarity) : Prop :=
  ∀ a b x, s.measure a b = some x → x.isFinite = true

theorem Similarity.IsFinite.isNaN {a b : String} (finite : s.IsFinite)
    (measured : s.measure a b = some x) : x.isNaN = false :=
  Score.isNaN_of_isFinite (finite a b x measured)

def readings (text : String) : List String :=
  text :: (Text.runningWords text.toList).map String.ofList

def similarities (s : Similarity) (query text : String) : List Float :=
  (readings text).filterMap (s.measure query)

theorem mem_similarities_iff :
    x ∈ (s.measure query text).toList ++
        (((Text.runningWords text.toList).map String.ofList).filter (· ≠ text)).filterMap
          (s.measure query) ↔
      x ∈ similarities s query text := by
  simp only [similarities, readings, List.mem_append, List.mem_filterMap, List.mem_cons,
    List.mem_filter, decide_eq_true_eq, Option.mem_toList]
  constructor
  · rintro (whole | ⟨w, ⟨mem, -⟩, measured⟩)
    · exact ⟨text, .inl rfl, whole⟩
    · exact ⟨w, .inr mem, measured⟩
  · rintro ⟨w, rfl | mem, measured⟩
    · exact .inl measured
    · by_cases whole : w = text
      · exact .inl (whole ▸ measured)
      · exact .inr ⟨w, ⟨mem, whole⟩, measured⟩

theorem number_of_mem_similarities (finite : s.IsFinite) (mem : x ∈ similarities s query text) :
    x.isNaN = false := by
  obtain ⟨w, -, measured⟩ := List.mem_filterMap.mp mem
  exact finite.isNaN measured

theorem bestSimilarity_eq_none_iff :
    bestSimilarity s query text = none ↔ similarities s query text = [] := by
  rw [bestSimilarity, foldl_better_eq_none_iff, ← Option.toList_eq_nil_iff,
    ← List.append_eq_nil_iff, List.eq_nil_iff_forall_not_mem, List.eq_nil_iff_forall_not_mem]
  simp only [mem_similarities_iff]

/-- A text counts by the greatest similarity that it or one of its words has. -/
theorem isGreatest_bestSimilarity (finite : s.IsFinite)
    (best : bestSimilarity s query text = some x) :
    IsGreatest x (similarities s query text) := by
  refine (isGreatest_foldl_better ?_ best).of_same_members fun y => mem_similarities_iff
  intro y mem
  exact number_of_mem_similarities finite (mem_similarities_iff.mp mem)

end Text

/-- The first of the items with the greatest value, where an item may have no value. -/
structure IsFirstGreatest {α : Type} (value : α → Option Float) (items : List α) (a : α)
    (x : Float) : Prop where
  has : value a = some x
  first : ∃ before after, items = before ++ a :: after ∧
    (∀ b ∈ before, ∀ y, value b = some y → y < x) ∧ ∀ b ∈ after, ∀ y, value b = some y → y ≤ x

namespace IsFirstGreatest

variable {α : Type} {value : α → Option Float} {items : List α} {a b : α} {x y : Float}

theorem mem (winner : IsFirstGreatest value items a x) : a ∈ items := by
  obtain ⟨before, after, rfl, -, -⟩ := winner.first
  simp

theorem bound (number : ∀ b y, value b = some y → y.isNaN = false)
    (winner : IsFirstGreatest value items a x) (mem : b ∈ items) (has : value b = some y) :
    y ≤ x := by
  have hx : x.isNaN = false := number a x winner.has
  have hy : y.isNaN = false := number b y has
  obtain ⟨before, after, rfl, earlier, later⟩ := winner.first
  rcases List.mem_append.mp mem with mem | mem
  · exact Score.le_of_lt hy hx (earlier b mem y has)
  · rcases List.mem_cons.mp mem with rfl | mem
    · obtain rfl : y = x := Option.some.inj (has.symm.trans winner.has)
      exact Score.le_refl hx
    · exact later b mem y has

theorem snoc_keep (winner : IsFirstGreatest value items a x)
    (worse : ∀ y, value b = some y → y ≤ x) : IsFirstGreatest value (items ++ [b]) a x := by
  obtain ⟨before, after, rfl, earlier, later⟩ := winner.first
  refine ⟨winner.has, before, after ++ [b], by simp, earlier, ?_⟩
  intro c mem y has
  rcases List.mem_append.mp mem with mem | mem
  · exact later c mem y has
  · obtain rfl := List.mem_singleton.mp mem
    exact worse y has

theorem snoc_new (worse : ∀ b ∈ items, ∀ y, value b = some y → y < x) (has : value a = some x) :
    IsFirstGreatest value (items ++ [a]) a x :=
  ⟨has, items, [], rfl, worse, fun _ mem => absurd mem List.not_mem_nil⟩

theorem not_mem_before (number : ∀ b y, value b = some y → y.isNaN = false)
    (winner : IsFirstGreatest value items a x) {before : List α}
    (earlier : ∀ b ∈ before, ∀ z, value b = some z → z < y) (top : y ≤ x)
    (has : value b = some y) : a ∉ before := by
  intro mem
  have hx : x.isNaN = false := number a x winner.has
  have hy : y.isNaN = false := number b y has
  have lt : x < x := Score.lt_of_lt_of_le hx hy hx (earlier a mem x winner.has) top
  exact Score.lt_irrefl hx lt

theorem unique (number : ∀ b y, value b = some y → y.isNaN = false)
    (winner : IsFirstGreatest value items a x) (other : IsFirstGreatest value items b y) :
    a = b ∧ x = y := by
  have below : y ≤ x := winner.bound number other.mem other.has
  have above : x ≤ y := other.bound number winner.mem winner.has
  obtain ⟨before, after, parted, earlier, -⟩ := winner.first
  obtain ⟨before', after', parted', earlier', -⟩ := other.first
  have notBefore : a ∉ before' := winner.not_mem_before number earlier' below other.has
  have notBefore' : b ∉ before := other.not_mem_before number earlier above winner.has
  have same : a = b := by
    rcases List.append_eq_append_iff.mp (parted.symm.trans parted') with
      ⟨between, longer, rest⟩ | ⟨between, longer, rest⟩
    · cases between with
      | nil => exact (List.cons.inj rest).1
      | cons c more =>
        obtain rfl : a = c := (List.cons.inj rest).1
        exact absurd (by simp [longer]) notBefore
    · cases between with
      | nil => exact (List.cons.inj rest).1.symm
      | cons c more =>
        obtain rfl : b = c := (List.cons.inj rest).1
        exact absurd (by simp [longer]) notBefore'
  subst same
  exact ⟨rfl, Option.some.inj (winner.has.symm.trans other.has)⟩

end IsFirstGreatest

section Record

variable {s : Similarity} {query : String} {texts : List (String × String)}

def textValue (s : Similarity) (query : String) (c : String × String) : Option Float :=
  bestSimilarity s query c.2

theorem textValue_isNaN (finite : s.IsFinite) (c : String × String) (x : Float)
    (has : textValue s query c = some x) : x.isNaN = false :=
  number_of_mem_similarities finite (isGreatest_bestSimilarity finite has).mem

theorem best?_concat (c : String × String) :
    best? s query (texts ++ [c]) =
      match best? s query texts, textValue s query c with
      | some b, some x => if b.similarity < x then some ⟨x, c.1, c.2⟩ else some b
      | none, some x => some ⟨x, c.1, c.2⟩
      | b, none => b := by
  rw [best?, List.foldl_append]
  rfl

/-- What stands for a record is the first of its most similar texts, and nothing does if no text is
similar to the query at all. -/
theorem best?_cases (finite : s.IsFinite) (texts : List (String × String)) :
    (best? s query texts = none ∧ ∀ c ∈ texts, textValue s query c = none) ∨
      ∃ b, best? s query texts = some b ∧
        IsFirstGreatest (textValue s query) texts (b.path, b.value) b.similarity := by
  induction texts using List.reverseRecOn with
  | nil => exact .inl ⟨rfl, fun _ mem => absurd mem List.not_mem_nil⟩
  | append_singleton rest c ih =>
    rw [best?_concat]
    rcases ih with ⟨none, absent⟩ | ⟨b, some, winner⟩
    · rw [none]
      cases has : textValue s query c with
      | none =>
        refine .inl ⟨rfl, ?_⟩
        intro d mem
        rcases List.mem_append.mp mem with mem | mem
        · exact absent d mem
        · exact List.mem_singleton.mp mem ▸ has
      | some x =>
        refine .inr ⟨⟨x, c.1, c.2⟩, rfl, .snoc_new ?_ has⟩
        intro d mem y given
        rw [absent d mem] at given
        cases given
    · rw [some]
      have hb : b.similarity.isNaN = false := textValue_isNaN finite _ _ winner.has
      cases has : textValue s query c with
      | none => exact .inr ⟨b, rfl, winner.snoc_keep fun y given => by rw [has] at given; cases given⟩
      | some x =>
        have hx : x.isNaN = false := textValue_isNaN finite _ _ has
        dsimp only
        by_cases lt : b.similarity < x
        · rw [if_pos lt]
          refine .inr ⟨⟨x, c.1, c.2⟩, rfl, .snoc_new ?_ has⟩
          intro d mem y given
          have le : y ≤ b.similarity := winner.bound (textValue_isNaN finite) mem given
          exact Score.lt_of_le_of_lt (textValue_isNaN finite d y given) hb hx le lt
        · rw [if_neg lt]
          refine .inr ⟨b, rfl, winner.snoc_keep ?_⟩
          intro y given
          obtain rfl : y = x := Option.some.inj (given.symm.trans has)
          exact Score.le_of_not_lt hb hx lt

theorem best?_eq_some_iff (finite : s.IsFinite) {b : Best} :
    best? s query texts = some b ↔
      IsFirstGreatest (textValue s query) texts (b.path, b.value) b.similarity := by
  constructor
  · intro best
    rcases best?_cases finite texts with ⟨none, -⟩ | ⟨b', some, winner⟩
    · rw [none] at best
      cases best
    · rw [some] at best
      cases best
      exact winner
  · intro winner
    rcases best?_cases finite texts with ⟨-, absent⟩ | ⟨b', some, winner'⟩
    · have has := winner.has
      rw [absent _ winner.mem] at has
      cases has
    · obtain ⟨here, same⟩ := winner.unique (textValue_isNaN finite) winner'
      obtain ⟨path, value⟩ := Prod.mk.inj here
      rw [some]
      cases b
      cases b'
      simp only [Option.some.injEq, Best.mk.injEq]
      exact ⟨same.symm, path.symm, value.symm⟩

theorem exists_isFirstGreatest_iff (finite : s.IsFinite) :
    (∃ c x, IsFirstGreatest (textValue s query) texts c x) ↔
      ∃ c ∈ texts, similarities s query c.2 ≠ [] := by
  simp only [ne_eq, ← bestSimilarity_eq_none_iff]
  constructor
  · rintro ⟨c, x, winner⟩
    refine ⟨c, winner.mem, ?_⟩
    intro none
    exact absurd (winner.has.symm.trans none) (Option.some_ne_none x)
  · rintro ⟨c, mem, some⟩
    rcases best?_cases finite texts with ⟨-, absent⟩ | ⟨b, -, winner⟩
    · exact absurd (absent c mem) some
    · exact ⟨_, _, winner⟩

end Record

section Hits

variable {s : Similarity} {policy : Policy} {query : String} {candidates : List Record}
  {exclude : List (String × String)} {fields : List String}

theorem pairwise_index_hits : (hits s policy query candidates exclude fields).Pairwise
    fun a b => a.index < b.index := by
  rw [hits_eq_filterMap]
  split
  · exact List.Pairwise.nil
  · have order : candidates.zipIdx.Pairwise fun c d => c.2 < d.2 := by
      rw [← List.pairwise_map, List.zipIdx_map_snd]
      exact List.pairwise_lt_range'
    refine order.filterMap _ ?_
    intro c d lt a reported b reported'
    obtain ⟨-, -, -, -, here, -⟩ := hitAt?_eq_some_iff.mp reported
    obtain ⟨-, -, -, -, there, -⟩ := hitAt?_eq_some_iff.mp reported'
    rw [here, there]
    exact lt

/-- What the second search reports, for every measure whose values are finite or absent. It reports
nothing for a blank query or without a measure. Else the reports stand in the order of the
candidates; a candidate is reported just if it is not excluded, some text of its searched fields is
similar to the query, and the policy accepts the greatest similarity; and the report shows the first
text that has it, with the score that the policy gives. A text counts by the greatest similarity
that it or one of its words has. -/
theorem hits_keep_first_best (finite : s.IsFinite) (policy : Policy) (query : String)
    (candidates : List Record) (exclude : List (String × String)) (fields : List String) :
    (core query = "" ∨ s.available = false →
      hits s policy query candidates exclude fields = []) ∧
    (core query ≠ "" → s.available = true →
      (hits s policy query candidates exclude fields).Pairwise (fun a b => a.index < b.index) ∧
      (∀ i, (∃ h ∈ hits s policy query candidates exclude fields, h.index = i) ↔
        ∃ r, candidates[i]? = some r ∧ r.key ∉ exclude ∧
          (∃ c ∈ fieldTexts r fields, similarities s (core query) c.2 ≠ []) ∧
          ∀ c x, IsFirstGreatest (textValue s (core query)) (fieldTexts r fields) c x →
            (policy.score? x).isSome = true) ∧
      ∀ h ∈ hits s policy query candidates exclude fields, ∃ r x,
        candidates[h.index]? = some r ∧
        IsFirstGreatest (textValue s (core query)) (fieldTexts r fields) (h.path, h.value) x ∧
        policy.score? x = some h.score) ∧
    ∀ c x, textValue s (core query) c = some x →
      IsGreatest x (similarities s (core query) c.2) := by
  refine ⟨?_, ?_, fun c x has => isGreatest_bestSimilarity finite has⟩
  · intro idle
    rw [hits_eq_filterMap, if_pos]
    rcases idle with blank | off
    · simp [blank]
    · simp [off]
  · intro asked available
    refine ⟨pairwise_index_hits, ?_, ?_⟩
    · intro i
      constructor
      · rintro ⟨h, mem, rfl⟩
        obtain ⟨-, -, r, b, stands, new, best, accepted, -, -⟩ := mem_hits_iff.mp mem
        have winner := (best?_eq_some_iff finite).mp best
        refine ⟨r, stands, new, (exists_isFirstGreatest_iff finite).mp ⟨_, _, winner⟩, ?_⟩
        intro c x other
        obtain ⟨-, same⟩ := winner.unique (textValue_isNaN finite) other
        rw [← same, accepted]
        rfl
      · rintro ⟨r, stands, new, similar, accepts⟩
        obtain ⟨c, x, winner⟩ := (exists_isFirstGreatest_iff finite).mpr similar
        obtain ⟨score, accepted⟩ := Option.isSome_iff_exists.mp (accepts c x winner)
        have best : best? s (core query) (fieldTexts r fields) = some ⟨x, c.1, c.2⟩ :=
          (best?_eq_some_iff finite).mpr winner
        exact ⟨⟨i, score, c.1, c.2⟩, mem_hits_iff.mpr
          ⟨asked, available, r, _, stands, new, best, accepted, rfl, rfl⟩, rfl⟩
    · intro h mem
      obtain ⟨-, -, r, b, stands, -, best, accepted, path, value⟩ := mem_hits_iff.mp mem
      refine ⟨r, b.similarity, stands, ?_, accepted⟩
      rw [path, value]
      exact (best?_eq_some_iff finite).mp best

end Hits

/-- A name with one letter left out, found by a word of it; the measure is that of edits, without
what is not finite. -/
theorem hits_keep_first_best_jon :
    let s : Similarity :=
      ⟨"strsim", true, fun a b => (Similarity.editMeasure a b).filter Float.isFinite⟩
    let person (id name : String) : Record := ⟨"case-1", id, "profile",
      ⟨[("core", .mapping [("name", .scalar (.text name))])], rfl⟩, none⟩
    let found := hits s .default " john" [person "1" "Zelda Quux", person "2" "Jon Smyth"] []
      ["core.name"]
    s.IsFinite ∧ core " john" ≠ "" ∧ s.available = true ∧
      found.map (fun h => (h.index, h.path, h.value)) = [(1, "core.name", "Jon Smyth")] ∧
      found.Pairwise (fun a b => a.index < b.index) := by
  intro s person found
  have finite : s.IsFinite := by
    intro a b x measured
    exact (Option.filter_eq_some_iff.mp measured).2
  have asked : core " john" ≠ "" := by decide +kernel
  have best := (hits_keep_first_best finite .default " john"
    [person "1" "Zelda Quux", person "2" "Jon Smyth"] [] ["core.name"]).2.1 asked rfl
  exact ⟨finite, asked, rfl, by decide +kernel, best.1⟩

end Dossier.Near
