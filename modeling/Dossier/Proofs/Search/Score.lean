import Dossier.Search.Result
import Mathlib

/-!
Scores as doubles. Ranking goes by the total order of doubles, which tells minus zero from zero and
has a place for what is no number; on all other doubles it agrees with the order of numbers.
-/

namespace Dossier

open Float.Model (Format UnpackedFloat)
open Float.Model.UnpackedFloat

namespace Score

def binade : Int := 4503599627370496

def IsCanonical : UnpackedFloat → Prop
  | .finite _ m e _ => (m : Int) < 2 * binade ∧ -1074 ≤ e ∧ e ≤ 971 ∧ (e = -1074 ∨ binade ≤ m)
  | .notANumber => False
  | _ => True

/-- The count of positive doubles up to one of this size. -/
def magnitude : UnpackedFloat → Int
  | .finite _ m e _ => (e + 1074) * binade + m
  | .infinity _ => 2047 * binade
  | _ => 0

def isNegative : UnpackedFloat → Bool
  | .finite s .. | .infinity s | .zero s => s == .negative
  | .notANumber => false

def place (u : UnpackedFloat) : Int := if isNegative u then -1 - magnitude u else magnitude u

theorem magnitude_eq {s : Sign} {m : Nat} {e : Int} {pos : 0 < m} :
    magnitude (.finite s m e pos) = (e + 1074) * binade + m := rfl

theorem magnitude_finite {s : Sign} {m : Nat} {e : Int} {pos : 0 < m}
    (canonical : IsCanonical (.finite s m e pos)) :
    0 < magnitude (.finite s m e pos) ∧ magnitude (.finite s m e pos) < 2047 * binade := by
  obtain ⟨short, least, most, _⟩ := canonical
  rw [magnitude_eq]
  unfold binade at *
  omega

theorem magnitude_nonneg {u : UnpackedFloat} (canonical : IsCanonical u) : 0 ≤ magnitude u := by
  cases u with
  | notANumber => cases canonical
  | infinity s =>
    change 0 ≤ 2047 * binade
    decide
  | zero s => exact Int.le_refl 0
  | finite s m e pos => exact Int.le_of_lt (magnitude_finite canonical).1

theorem compare_finite {s t : Sign} {m n : Nat} {e f : Int} {pm : 0 < m} {pn : 0 < n}
    (cm : IsCanonical (.finite s m e pm)) (cn : IsCanonical (.finite t n f pn)) :
    (compare e f).then (compare m n) =
      compare (magnitude (.finite s m e pm)) (magnitude (.finite t n f pn)) := by
  obtain ⟨shortM, _, _, fullM⟩ := cm
  obtain ⟨shortN, _, _, fullN⟩ := cn
  rw [magnitude_eq, magnitude_eq]
  unfold binade at *
  rcases Int.lt_trichotomy e f with lt | eq | gt
  · rw [Int.compare_eq_lt.mpr lt, Ordering.lt_then]
    exact (Int.compare_eq_lt.mpr (by omega)).symm
  · subst eq
    rw [Int.compare_eq_eq.mpr rfl, Ordering.eq_then]
    rcases Nat.lt_trichotomy m n with lt | eq | gt
    · rw [Nat.compare_eq_lt.mpr lt]
      exact (Int.compare_eq_lt.mpr (by omega)).symm
    · rw [Nat.compare_eq_eq.mpr eq]
      exact (Int.compare_eq_eq.mpr (by omega)).symm
    · rw [Nat.compare_eq_gt.mpr gt]
      exact (Int.compare_eq_gt.mpr (by omega)).symm
  · rw [Int.compare_eq_gt.mpr gt, Ordering.gt_then]
    exact (Int.compare_eq_gt.mpr (by omega)).symm

theorem eq_of_isNegative {s t : Sign} (same : (s == .negative) = (t == .negative)) : s = t := by
  cases s <;> cases t <;> first | rfl | cases same

theorem compare_of_same_sign {u v : UnpackedFloat} (cu : IsCanonical u) (cv : IsCanonical v)
    (same : isNegative u = isNegative v) :
    u.compare v = some (if isNegative u then (compare (magnitude u) (magnitude v)).swap
      else compare (magnitude u) (magnitude v)) := by
  cases u with
  | notANumber => cases cu
  | infinity s =>
    cases v with
    | notANumber => cases cv
    | infinity t =>
      obtain rfl := eq_of_isNegative same
      cases s <;> rfl
    | zero t =>
      obtain rfl := eq_of_isNegative same
      cases s <;> rfl
    | finite t n f pn =>
      obtain rfl := eq_of_isNegative same
      have below := (magnitude_finite cv).2
      have order : compare (magnitude (.infinity s)) (magnitude (.finite s n f pn)) = .gt :=
        Int.compare_eq_gt.mpr below
      rw [order]
      cases s <;> rfl
  | zero s =>
    cases v with
    | notANumber => cases cv
    | infinity t =>
      obtain rfl := eq_of_isNegative same
      cases s <;> rfl
    | zero t =>
      obtain rfl := eq_of_isNegative same
      cases s <;> rfl
    | finite t n f pn =>
      obtain rfl := eq_of_isNegative same
      have above := (magnitude_finite cv).1
      have order : compare (magnitude (.zero s)) (magnitude (.finite s n f pn)) = .lt :=
        Int.compare_eq_lt.mpr above
      rw [order]
      cases s <;> rfl
  | finite s m e pm =>
    cases v with
    | notANumber => cases cv
    | infinity t =>
      obtain rfl := eq_of_isNegative same
      have below := (magnitude_finite cu).2
      have order : compare (magnitude (.finite s m e pm)) (magnitude (.infinity s)) = .lt :=
        Int.compare_eq_lt.mpr below
      rw [order]
      cases s <;> rfl
    | zero t =>
      obtain rfl := eq_of_isNegative same
      have above := (magnitude_finite cu).1
      have order : compare (magnitude (.finite s m e pm)) (magnitude (.zero s)) = .gt :=
        Int.compare_eq_gt.mpr above
      rw [order]
      cases s <;> rfl
    | finite t n f pn =>
      obtain rfl := eq_of_isNegative same
      rw [← compare_finite cu cv]
      cases s <;> rfl

theorem compare_of_apart {u v : UnpackedFloat} (cu : IsCanonical u) (cv : IsCanonical v)
    (negative : isNegative u = true) (positive : isNegative v = false) :
    u.compare v = some (compare (-magnitude u) (magnitude v)) ∧
      v.compare u = some (compare (magnitude v) (-magnitude u)) := by
  have hu := magnitude_nonneg cu
  have hv := magnitude_nonneg cv
  by_cases large : 0 < magnitude u ∨ 0 < magnitude v
  · have lt : compare (-magnitude u) (magnitude v) = .lt := Int.compare_eq_lt.mpr (by omega)
    have gt : compare (magnitude v) (-magnitude u) = .gt := Int.compare_eq_gt.mpr (by omega)
    rw [lt, gt]
    cases u with
    | notANumber => cases cu
    | infinity s | zero s | finite s m e pm =>
      cases s with
      | positive => cases negative
      | negative =>
        cases v with
        | notANumber => cases cv
        | infinity t | zero t | finite t n f pn =>
          cases t with
          | positive => first | exact ⟨rfl, rfl⟩ | exact absurd large (by decide)
          | negative => cases positive
  · have huge : 0 < 2047 * binade := by decide
    cases u with
    | notANumber => cases cu
    | infinity s => exact absurd (.inl huge) large
    | finite s m e pm => exact absurd (.inl (magnitude_finite cu).1) large
    | zero s =>
      cases v with
      | notANumber => cases cv
      | infinity t => exact absurd (.inr huge) large
      | finite t n f pn => exact absurd (.inr (magnitude_finite cv).1) large
      | zero t => exact ⟨rfl, rfl⟩

theorem compare_neg (a b : Int) : (compare a b).swap = compare (-a) (-b) := by
  rcases Int.lt_trichotomy a b with lt | eq | gt
  · rw [Int.compare_eq_lt.mpr lt]
    exact (Int.compare_eq_gt.mpr (by omega)).symm
  · rw [Int.compare_eq_eq.mpr eq]
    exact (Int.compare_eq_eq.mpr (by omega)).symm
  · rw [Int.compare_eq_gt.mpr gt]
    exact (Int.compare_eq_lt.mpr (by omega)).symm

/-- The size with its sign, the same for both zeros. -/
def signed (u : UnpackedFloat) : Int := if isNegative u then -magnitude u else magnitude u

theorem compare_eq {u v : UnpackedFloat} (cu : IsCanonical u) (cv : IsCanonical v) :
    u.compare v = some (compare (signed u) (signed v)) := by
  unfold signed
  by_cases nu : isNegative u = true
  · by_cases nv : isNegative v = true
    · rw [compare_of_same_sign cu cv (nu.trans nv.symm), if_pos nu, if_pos nu, if_pos nv,
        compare_neg]
    · rw [if_pos nu, if_neg nv]
      exact (compare_of_apart cu cv nu (Bool.eq_false_iff.mpr nv)).1
  · by_cases nv : isNegative v = true
    · rw [if_neg nu, if_pos nv]
      exact (compare_of_apart cv cu nv (Bool.eq_false_iff.mpr nu)).2
    · have same : isNegative u = isNegative v :=
        (Bool.eq_false_iff.mpr nu).trans (Bool.eq_false_iff.mpr nv).symm
      rw [compare_of_same_sign cu cv same, if_neg nu, if_neg nu, if_neg nv]

theorem le_iff_signed_le {u v : UnpackedFloat} (cu : IsCanonical u) (cv : IsCanonical v) :
    u.le v = true ↔ signed u ≤ signed v := by
  rw [UnpackedFloat.le, compare_eq cu cv, Option.any_some, Int.isLE_compare]

theorem lt_iff_signed_lt {u v : UnpackedFloat} (cu : IsCanonical u) (cv : IsCanonical v) :
    u.lt v = true ↔ signed u < signed v := by
  rw [UnpackedFloat.lt, compare_eq cu cv, beq_iff_eq, Option.some.injEq, Int.compare_eq_lt]

/-- The places are in the order of the numbers, and tell the two zeros apart besides. -/
theorem le_of_place_le {u v : UnpackedFloat} (cu : IsCanonical u) (cv : IsCanonical v)
    (le : place u ≤ place v) : u.le v = true := by
  have hu := magnitude_nonneg cu
  have hv := magnitude_nonneg cv
  rw [le_iff_signed_le cu cv]
  unfold place at le
  unfold signed
  split_ifs at le ⊢ <;> omega

section

variable (b : BitVec 64)

theorem toNat_unpackMantissa :
    (@unpackMantissa Format.binary64 b).toNat = b.toNat % 4503599627370496 := by
  rw [unpackMantissa_def, BitVec.extractLsb'_toNat, Nat.shiftRight_zero]
  rfl

theorem toNat_unpackExponent :
    (@unpackExponent Format.binary64 b).toNat = b.toNat / 4503599627370496 % 2048 := by
  rw [unpackExponent_def, BitVec.extractLsb'_toNat, Nat.shiftRight_eq_div_pow]
  rfl

theorem unpackSign_beq :
    (Sign.ofBitVec (@unpackSign Format.binary64 b) == .negative) =
      decide (9223372036854775808 ≤ b.toNat) := by
  have bit : (@unpackSign Format.binary64 b).toNat = b.toNat / 9223372036854775808 % 2 := by
    rw [unpackSign_def, BitVec.extractLsb'_toNat, Nat.shiftRight_eq_div_pow]
    rfl
  have bound := b.isLt
  unfold Sign.ofBitVec
  by_cases plus : @unpackSign Format.binary64 b = 0#1
  · rw [plus] at bit
    change 0 = _ at bit
    rw [if_pos plus, decide_eq_false (by omega)]
    rfl
  · have one : (@unpackSign Format.binary64 b).toNat ≠ 0 := by
      intro zero
      exact plus (BitVec.eq_of_toNat_eq zero)
    rw [bit] at one
    rw [if_neg plus, decide_eq_true (by omega)]
    rfl

theorem toNat_implicitBit (m : BitVec 52) : (1#1 ++ m).toNat = 4503599627370496 + m.toNat := by
  rw [BitVec.toNat_append, ← Nat.shiftLeft_add_eq_or_of_lt m.isLt]
  rfl

/-- The double of these bits: the first tells its sign, and the others count the doubles up to its
size. -/
structure IsUnpacked (u : UnpackedFloat) : Prop where
  canonical : IsCanonical u
  negative : isNegative u = decide (9223372036854775808 ≤ b.toNat)
  size : magnitude u = (b.toNat % 9223372036854775808 : Nat)

variable {b}

theorem isUnpacked_of_greatest (special : @unpackExponent Format.binary64 b = -1#11)
    (number : (UnpackedFloat.unpack Format.binary64 b).isNaN = false) :
    IsUnpacked b (UnpackedFloat.unpack Format.binary64 b) := by
  have mantissa := toNat_unpackMantissa b
  have exponent := toNat_unpackExponent b
  have bound := b.isLt
  unfold UnpackedFloat.unpack at number ⊢
  dsimp only at number ⊢
  by_cases whole : @unpackMantissa Format.binary64 b = 0#52
  · rw [if_pos special, if_pos whole]
    rw [special] at exponent
    rw [whole] at mantissa
    change 2047 = _ at exponent
    change 0 = _ at mantissa
    refine ⟨trivial, unpackSign_beq b, ?_⟩
    simp only [magnitude, binade]
    omega
  · rw [if_pos special, if_neg whole] at number
    cases number

theorem isUnpacked_of_least (special : @unpackExponent Format.binary64 b ≠ -1#11)
    (least : @unpackExponent Format.binary64 b = 0#11) :
    IsUnpacked b (UnpackedFloat.unpack Format.binary64 b) := by
  have mantissa := toNat_unpackMantissa b
  have exponent := toNat_unpackExponent b
  have bound := b.isLt
  have bias : ((Format.binary64.exponentBias : Int) + (52 : Nat)) = 1075 := by decide
  unfold UnpackedFloat.unpack
  dsimp only
  have smallest : ((@unpackExponent Format.binary64 b).toNat : Int) -
      (Format.binary64.exponentBias + (52 : Nat)) + 1 = -1074 := by
    rw [least, bias]
    rfl
  rw [least] at exponent
  change 0 = _ at exponent
  by_cases whole : @unpackMantissa Format.binary64 b = 0#52
  · rw [if_neg special, if_pos least, dif_pos whole]
    rw [whole] at mantissa
    change 0 = _ at mantissa
    refine ⟨trivial, unpackSign_beq b, ?_⟩
    simp only [magnitude]
    omega
  · rw [if_neg special, if_pos least, dif_neg whole]
    refine ⟨⟨?_, ?_, ?_, .inl smallest⟩, unpackSign_beq b, ?_⟩
    · simp only [binade]
      omega
    · omega
    · omega
    · rw [magnitude_eq, binade]
      omega

theorem isUnpacked_of_between (special : @unpackExponent Format.binary64 b ≠ -1#11)
    (least : @unpackExponent Format.binary64 b ≠ 0#11) :
    IsUnpacked b (UnpackedFloat.unpack Format.binary64 b) := by
  have mantissa := toNat_unpackMantissa b
  have exponent := toNat_unpackExponent b
  have bound := b.isLt
  have bias : ((Format.binary64.exponentBias : Int) + (52 : Nat)) = 1075 := by decide
  unfold UnpackedFloat.unpack
  dsimp only
  rw [if_neg special, if_neg least]
  have above : (@unpackExponent Format.binary64 b).toNat ≠ 0 := by
    intro zero
    exact least (BitVec.eq_of_toNat_eq zero)
  have below : (@unpackExponent Format.binary64 b).toNat ≠ 2047 := by
    intro all
    exact special (BitVec.eq_of_toNat_eq all)
  have significand := toNat_implicitBit (@unpackMantissa Format.binary64 b)
  refine ⟨⟨?_, ?_, ?_, .inr ?_⟩, unpackSign_beq b, ?_⟩
  · simp only [binade]
    omega
  · omega
  · omega
  · simp only [binade]
    omega
  · rw [magnitude_eq, binade]
    omega

variable (b) in
theorem isUnpacked_unpack (number : (UnpackedFloat.unpack Format.binary64 b).isNaN = false) :
    IsUnpacked b (UnpackedFloat.unpack Format.binary64 b) := by
  by_cases special : @unpackExponent Format.binary64 b = -1#11
  · exact isUnpacked_of_greatest special number
  · by_cases least : @unpackExponent Format.binary64 b = 0#11
    · exact isUnpacked_of_least special least
    · exact isUnpacked_of_between special least

end

theorem orderKey_eq_place {x : Float} (number : x.isNaN = false) :
    orderKey x = place x.toModel.unpack := by
  obtain ⟨_, negative, size⟩ := isUnpacked_unpack x.toModel.toBits.toBitVec number
  have bound := x.toModel.toBits.toBitVec.isLt
  have bits : x.toBits.toNat = x.toModel.toBits.toBitVec.toNat := rfl
  have signBit : Decimal.signBit = 9223372036854775808 := rfl
  unfold orderKey place
  change _ = if isNegative (UnpackedFloat.unpack Format.binary64 x.toModel.toBits.toBitVec)
    then -1 - magnitude (UnpackedFloat.unpack Format.binary64 x.toModel.toBits.toBitVec)
    else magnitude (UnpackedFloat.unpack Format.binary64 x.toModel.toBits.toBitVec)
  rw [negative, size, bits, signBit]
  by_cases minus : 9223372036854775808 ≤ x.toModel.toBits.toBitVec.toNat
  · rw [if_neg (by omega), if_pos (decide_eq_true minus)]
    omega
  · rw [if_pos (by omega), if_neg (by simpa using minus)]
    omega

theorem le_iff {x y : Float} : x ≤ y ↔ x.toModel.unpack.le y.toModel.unpack = true :=
  decide_eq_true_iff

theorem le_of_orderKey_le {x y : Float} (hx : x.isNaN = false) (hy : y.isNaN = false)
    (le : orderKey x ≤ orderKey y) : x ≤ y := by
  rw [orderKey_eq_place hx, orderKey_eq_place hy] at le
  have cx := (isUnpacked_unpack x.toModel.toBits.toBitVec hx).canonical
  have cy := (isUnpacked_unpack y.toModel.toBits.toBitVec hy).canonical
  exact le_iff.mpr (le_of_place_le cx cy le)

/-- The place of a double in the order of numbers, where both zeros have one. -/
def rank (x : Float) : Int := signed x.toModel.unpack

theorem le_iff_rank_le {x y : Float} (hx : x.isNaN = false) (hy : y.isNaN = false) :
    x ≤ y ↔ rank x ≤ rank y :=
  le_iff.trans (le_iff_signed_le (isUnpacked_unpack x.toModel.toBits.toBitVec hx).canonical
    (isUnpacked_unpack y.toModel.toBits.toBitVec hy).canonical)

theorem lt_iff_rank_lt {x y : Float} (hx : x.isNaN = false) (hy : y.isNaN = false) :
    x < y ↔ rank x < rank y :=
  decide_eq_true_iff.trans
    (lt_iff_signed_lt (isUnpacked_unpack x.toModel.toBits.toBitVec hx).canonical
      (isUnpacked_unpack y.toModel.toBits.toBitVec hy).canonical)

theorem isNaN_of_isFinite {x : Float} (finite : x.isFinite = true) : x.isNaN = false := by
  change x.toModel.unpack.isFinite = true at finite
  change x.toModel.unpack.isNaN = false
  cases unpacked : x.toModel.unpack with
  | notANumber => rw [unpacked] at finite; cases finite
  | _ => rfl

section

variable {x y z : Float} (hx : x.isNaN = false) (hy : y.isNaN = false) (hz : z.isNaN = false)

include hx

theorem le_refl : x ≤ x := (le_iff_rank_le hx hx).mpr (Int.le_refl _)

theorem lt_irrefl : ¬ x < x := by
  rw [lt_iff_rank_lt hx hx]
  exact Int.lt_irrefl _

include hy

theorem le_of_lt (lt : x < y) : x ≤ y := by
  rw [lt_iff_rank_lt hx hy] at lt
  rw [le_iff_rank_le hx hy]
  omega

theorem le_of_not_lt (not : ¬ x < y) : y ≤ x := by
  rw [lt_iff_rank_lt hx hy] at not
  rw [le_iff_rank_le hy hx]
  omega

include hz

theorem le_trans (le : x ≤ y) (next : y ≤ z) : x ≤ z := by
  rw [le_iff_rank_le hx hy] at le
  rw [le_iff_rank_le hy hz] at next
  rw [le_iff_rank_le hx hz]
  omega

theorem lt_of_lt_of_le (lt : x < y) (next : y ≤ z) : x < z := by
  rw [lt_iff_rank_lt hx hy] at lt
  rw [le_iff_rank_le hy hz] at next
  rw [lt_iff_rank_lt hx hz]
  omega

theorem lt_of_le_of_lt (le : x ≤ y) (next : y < z) : x < z := by
  rw [le_iff_rank_le hx hy] at le
  rw [lt_iff_rank_lt hy hz] at next
  rw [lt_iff_rank_lt hx hz]
  omega

end

theorem isNaN_of_le {x y : Float} (le : x ≤ y) : y.isNaN = false := by
  rw [le_iff] at le
  change y.toModel.unpack.isNaN = false
  cases unpacked : y.toModel.unpack with
  | notANumber =>
    have incomparable : x.toModel.unpack.compare .notANumber = none := by
      cases x.toModel.unpack <;> rfl
    rw [unpacked, UnpackedFloat.le, incomparable] at le
    cases le
  | _ => rfl

end Score

end Dossier
