import Dossier.Proofs.Search.Score

/-!
Shares as quotients of doubles. A count of more than 53 bits is rounded, and so is a quotient, so
that a share is no more than near to what it stands for. The share of all is one for all that: what
a count that fits a machine word is rounded to is a finite double other than zero, and any of these
is one when it is divided by itself.
-/

namespace Dossier

open Float.Model (Format UnpackedFloat)
open Float.Model.UnpackedFloat

namespace Share

/-- A finite number whose significand has as many bits as there are, with its exponent between two
bounds. -/
def IsFull (least most : Int) (u : UnpackedFloat) : Prop :=
  ∃ s m e pos, u = .finite s m e pos ∧ 4503599627370496 ≤ m ∧ m < 9007199254740992 ∧
    least ≤ e ∧ e ≤ most

theorem div_finite {s : Sign} {m : Nat} {e : Int} {pos : 0 < m} :
    UnpackedFloat.div Format.binary64 (.finite s m e pos) (.finite s m e pos) =
      roundWithAccuracy Format.binary64 .positive 9007199254740992 (-53) .exact := by
  have core : divCore Format.binary64 m e m e = (9007199254740992, -53, .exact) := by
    unfold divCore
    have target : min (e - e) (Format.binary64.targetExponent
        (Float.Model.totalExponent m e - Float.Model.totalExponent m e)) = -53 := by
      rw [Int.sub_self, Int.sub_self]
      decide
    have shift : (e - e - -53).toNat = 53 := by omega
    have whole : m <<< 53 = 9007199254740992 * m := by
      rw [Nat.shiftLeft_eq, Nat.mul_comm]
    dsimp only
    rw [target, shift, whole, Nat.mul_div_cancel _ pos, Nat.mul_mod_left]
    rfl
  have sign : s / s = .positive := by cases s <;> rfl
  unfold UnpackedFloat.div
  dsimp only
  rw [core, sign]

theorem div_self {x : Float} {s : Sign} {m : Nat} {e : Int} {pos : 0 < m}
    (unpacked : x.toModel.unpack = .finite s m e pos) : x / x = 1.0 := by
  have quotient : x / x = .ofModel (.pack
      (UnpackedFloat.div Format.binary64 x.toModel.unpack x.toModel.unpack)) := rfl
  rw [quotient, unpacked, div_finite]
  decide +kernel

theorem mantissa_shiftRight (em : ExtendedMantissa) (n : Nat) :
    (em >>> n).mantissa = em.mantissa / 2 ^ n := by
  have unfolded : em >>> n = n.repeat ExtendedMantissa.shiftRightOne em := rfl
  rw [unfolded]
  induction n with
  | zero => simp [Nat.repeat]
  | succ n ih =>
    have step : (n + 1).repeat ExtendedMantissa.shiftRightOne em =
        (n.repeat ExtendedMantissa.shiftRightOne em).shiftRightOne := rfl
    rw [step, ExtendedMantissa.shiftRightOne]
    rw [ih rfl, Nat.div_div_eq_div_mul, pow_succ]

theorem le_roundedMantissa (em : ExtendedMantissa) :
    em.mantissa ≤ em.roundedMantissa ∧ em.roundedMantissa ≤ em.mantissa + 1 := by
  unfold ExtendedMantissa.roundedMantissa
  cases em.accuracy with
  | exact => simp [Accuracy.roundToNearestEven]
  | inexact o =>
    cases o <;> simp only [Accuracy.roundToNearestEven] <;> omega

theorem shiftToTargetExponent_of_long {m : Nat} {e : Int} (long : 52 ≤ m.log2)
    (normal : -1022 ≤ e + m.log2) (a : Accuracy) :
    shiftToTargetExponent Format.binary64 m e a =
      (ExtendedMantissa.ofMantissaAndAccuracy m a >>> (m.log2 - 52), e + (m.log2 - 52 : Nat)) := by
  have target : Format.binary64.targetExponent (Float.Model.totalExponent m e) =
      e + (m.log2 - 52 : Nat) := by
    have bits : Format.binary64.mantissaBits = 53 := rfl
    have least : Format.binary64.minExponent = -1074 := by decide
    unfold Format.targetExponent Float.Model.totalExponent
    rw [bits, least]
    omega
  have shift : (e + (m.log2 - 52 : Nat) - e).toNat = m.log2 - 52 := by omega
  unfold shiftToTargetExponent shiftToExponent
  dsimp only
  rw [target, shift]

theorem log2_eq {m : Nat} (least : 4503599627370496 ≤ m) (most : m < 9007199254740992) :
    m.log2 = 52 := by
  have ne : m ≠ 0 := by omega
  rw [Nat.log2_eq_iff ne]
  omega

theorem leading_bits {m k : Nat} (width : m.log2 = 52 + k) :
    4503599627370496 ≤ m / 2 ^ k ∧ m / 2 ^ k < 9007199254740992 := by
  have ne : m ≠ 0 := by
    rintro rfl
    rw [Nat.log2_zero] at width
    omega
  obtain ⟨lower, upper⟩ := (Nat.log2_eq_iff ne).mp width
  have longer : 52 + k + 1 = 53 + k := by omega
  rw [pow_add] at lower
  rw [longer, pow_add] at upper
  have positive : 0 < 2 ^ k := Nat.two_pow_pos k
  constructor
  · exact (Nat.le_div_iff_mul_le positive).mpr lower
  · exact (Nat.div_lt_iff_lt_mul positive).mpr upper

/-- Rounding keeps all bits of a significand that has as many, and moves the exponent with them. -/
theorem isFull_roundWithAccuracy (s : Sign) {m : Nat} {e : Int} (long : 52 ≤ m.log2)
    (normal : -1022 ≤ e + m.log2) :
    IsFull (e + m.log2 - 52) (e + m.log2 - 51)
      (roundWithAccuracy Format.binary64 s m e .exact) := by
  obtain ⟨k, width⟩ : ∃ k, m.log2 = 52 + k := ⟨m.log2 - 52, by omega⟩
  have shift : m.log2 - 52 = k := by omega
  have cut := leading_bits width
  unfold roundWithAccuracy
  rw [shiftToTargetExponent_of_long long normal, shift]
  dsimp only
  have near := le_roundedMantissa (ExtendedMantissa.ofMantissaAndAccuracy m .exact >>> k)
  rw [mantissa_shiftRight] at near
  generalize ExtendedMantissa.roundedMantissa
    (ExtendedMantissa.ofMantissaAndAccuracy m .exact >>> k) = n at near
  change m / 2 ^ k ≤ n ∧ n ≤ m / 2 ^ k + 1 at near
  -- Rounding may have carried into one more bit, which is cut off again.
  by_cases carried : n = 9007199254740992
  · have log : n.log2 = 53 := by
      rw [carried]
      decide +kernel
    rw [shiftToTargetExponent_of_long (by omega) (by omega), log]
    dsimp only
    have half : (ExtendedMantissa.ofMantissaAndAccuracy n .exact >>> (53 - 52)).mantissa =
        4503599627370496 := by
      rw [mantissa_shiftRight]
      change n / 2 ^ 1 = _
      omega
    rw [half, dif_neg (by decide)]
    exact ⟨s, _, _, _, rfl, by omega, by omega, by omega, by omega⟩
  · have log : n.log2 = 52 := log2_eq (by omega) (by omega)
    rw [shiftToTargetExponent_of_long (by omega) (by omega), log]
    dsimp only
    have same : (ExtendedMantissa.ofMantissaAndAccuracy n .exact >>> (52 - 52)).mantissa = n :=
      rfl
    rw [same, dif_neg (by omega)]
    exact ⟨s, _, _, _, rfl, by omega, by omega, by omega, by omega⟩

theorem isFull_unpack {b : BitVec 64} {k : Nat} {least most : Int}
    (exponent : (@unpackExponent Format.binary64 b).toNat = k) (low : 0 < k) (high : k < 2047)
    (above : least ≤ (k : Int) - 1075) (below : (k : Int) - 1075 ≤ most) :
    IsFull least most (UnpackedFloat.unpack Format.binary64 b) := by
  have special : @unpackExponent Format.binary64 b ≠ -1#11 := by
    intro all
    rw [all] at exponent
    change 2047 = k at exponent
    omega
  have none : @unpackExponent Format.binary64 b ≠ 0#11 := by
    intro zero
    rw [zero] at exponent
    change 0 = k at exponent
    omega
  have bias : ((Format.binary64.exponentBias : Int) + (52 : Nat)) = 1075 := by decide
  have significand := Score.toNat_implicitBit (@unpackMantissa Format.binary64 b)
  have short := (@unpackMantissa Format.binary64 b).isLt
  unfold UnpackedFloat.unpack
  dsimp only
  rw [if_neg special, if_neg none]
  refine ⟨_, _, _, _, rfl, ?_, ?_, ?_, ?_⟩
  · omega
  · omega
  · omega
  · omega

theorem pack_of_full {s : Sign} {m : Nat} {e : Int} {pos : 0 < m} {k : Nat} (biased : e + 1075 = k)
    (high : k < 2047) (log : m.log2 = 52) :
    UnpackedFloat.pack Format.binary64 (.finite s m e pos) =
      packComponents Format.binary64 s (BitVec.ofNat 11 k) (BitVec.ofNat 52 m) := by
  have bias : (Format.binary64.exponentBias : Int) = 1023 := by decide
  have exponent : (e + Format.binary64.exponentBias + (52 : Nat)).toNat = k := by
    rw [bias]
    omega
  have moderate : ¬ 2 ^ 11 ≤ k + 1 := by omega
  have whole : 52 + 1 = Format.binary64.mantissaBits := rfl
  unfold UnpackedFloat.pack
  dsimp only
  rw [exponent, log, if_neg moderate, if_pos whole]

theorem isFull_unpack_pack {u : UnpackedFloat} {least most : Int} (full : IsFull least most u)
    (low : -1074 ≤ least) (high : most ≤ 971) :
    IsFull least most
      (UnpackedFloat.unpack Format.binary64 (UnpackedFloat.pack Format.binary64 u)) := by
  obtain ⟨s, m, e, pos, rfl, lower, upper, above, below⟩ := full
  obtain ⟨k, biased⟩ : ∃ k : Nat, e + 1075 = k := ⟨(e + 1075).toNat, by omega⟩
  rw [pack_of_full biased (by omega) (log2_eq lower upper)]
  have field : (@unpackExponent Format.binary64
      (packComponents Format.binary64 s (BitVec.ofNat 11 k) (BitVec.ofNat 52 m))).toNat = k := by
    rw [unpackExponent_packComponents]
    change k % 2048 = k
    omega
  exact isFull_unpack field (by omega) (by omega) (by omega) (by omega)

theorem isFull_ofModel {u : UnpackedFloat} {least most : Int} (full : IsFull least most u)
    (low : -1074 ≤ least) (high : most ≤ 971) :
    IsFull least most (Float.ofModel (.pack u)).toModel.unpack :=
  isFull_unpack_pack full low high

theorem IsFull.mono {u : UnpackedFloat} {least most least' most' : Int} (full : IsFull least most u)
    (low : least' ≤ least) (high : most ≤ most') : IsFull least' most' u := by
  obtain ⟨s, m, e, pos, rfl, lower, upper, above, below⟩ := full
  exact ⟨s, m, e, pos, rfl, lower, upper, by omega, by omega⟩

theorem ofScientific_zero {n : Nat} (pos : 0 < n) :
    UnpackedFloat.ofScientific Format.binary64 n 0 =
      roundWithAccuracy Format.binary64 .positive (n <<< 53) (-53) .exact := by
  have some : ¬ n = 0 := by omega
  have notHuge : ¬ (0 : Int) > 2 ^ 11 := by decide
  have notTiny : ¬ (0 : Int) < -((2 ^ 11 : Int) + (n.log2 : Int)) := by
    have : (0 : Int) ≤ 2 ^ 11 := by decide
    omega
  have order : (0 : Int) ≤ 0 := Int.le_refl 0
  unfold UnpackedFloat.ofScientific
  rw [dif_neg some, if_neg notHuge, if_neg notTiny, if_pos order]
  unfold UnpackedFloat.mul
  have bits : Format.binary64.mantissaBits = 53 := rfl
  have unit : 10 ^ (0 : Int).toNat = 1 := rfl
  dsimp only
  rw [bits, unit, Nat.mul_one, Int.add_zero]
  rfl

theorem ofNat_of_large {n : Nat} (large : ¬ n < 9007199254740992) :
    Float.ofNat n =
      .ofModel (.pack (roundWithAccuracy Format.binary64 .positive (n <<< 53) (-53) .exact)) := by
  have slow : ¬ (n < 9007199254740992 ∧ 0 ≤ 22) := fun fast => large fast.1
  have unfolded : Float.ofNat n = Float.ofScientific n false 0 := rfl
  rw [unfolded, Float.ofScientific, dif_neg slow, ← ofScientific_zero (by omega)]
  rfl

theorem ofNat_of_small {n : Nat} (small : n < 9007199254740992) :
    Float.ofNat n = n.toUInt64.toFloat * 1.0 := by
  have fast : n < 9007199254740992 ∧ 0 ≤ 22 := ⟨small, by decide⟩
  have unfolded : Float.ofNat n = Float.ofScientific n false 0 := rfl
  rw [unfolded, Float.ofScientific, dif_pos fast]
  have one : Float.exactlyRepresentablePowersOfTen.getD 0 0.0 = 1.0 := by decide +kernel
  exact congrArg (n.toUInt64.toFloat * ·) one

theorem round_of_small {n : Nat} (small : n.log2 ≤ 52) :
    UnpackedFloat.round Format.binary64 .positive n 0 =
      roundWithAccuracy Format.binary64 .positive (n <<< (52 - n.log2)) ((n.log2 : Int) - 52)
        .exact := by
  have target : Format.binary64.targetExponent (Float.Model.totalExponent n 0) =
      (n.log2 : Int) - 52 := by
    have bits : Format.binary64.mantissaBits = 53 := rfl
    have least : Format.binary64.minExponent = -1074 := by decide
    unfold Format.targetExponent Float.Model.totalExponent
    rw [bits, least]
    omega
  have shift : (0 - ((n.log2 : Int) - 52)).toNat = 52 - n.log2 := by omega
  have moved : (0 : Int) - ((52 - n.log2 : Nat) : Int) = (n.log2 : Int) - 52 := by omega
  unfold UnpackedFloat.round decreaseExponent
  dsimp only
  rw [target, shift, moved]

theorem log2_le_of_lt {n k : Nat} (pos : 0 < n) (lt : n < 2 ^ (k + 1)) : n.log2 ≤ k := by
  have := (Nat.log2_lt (by omega)).mpr lt
  omega

theorem toFloat_eq {n : Nat} (pos : 0 < n) (small : n < 9007199254740992) :
    n.toUInt64.toFloat = .ofModel (.pack (roundWithAccuracy Format.binary64 .positive
      (n <<< (52 - n.log2)) ((n.log2 : Int) - 52) .exact)) := by
  have same : n.toUInt64.toNat = n := UInt64.toNat_ofNat_of_lt (Nat.lt_trans small (by decide))
  have log : n.log2 ≤ 52 := log2_le_of_lt pos small
  have count : UnpackedFloat.ofUInt64 Format.binary64 n.toUInt64 =
      UnpackedFloat.round Format.binary64 .positive n 0 := by
    unfold UnpackedFloat.ofUInt64 UnpackedFloat.ofNat UnpackedFloat.ofInt UnpackedFloat.normalize
    have sign : compare (n : Int) 0 = .gt := Int.compare_eq_gt.mpr (by omega)
    rw [same, sign]
    rfl
  rw [← round_of_small log, ← count]
  rfl

theorem log2_shiftLeft {n : Nat} (pos : 0 < n) (k : Nat) : (n <<< k).log2 = n.log2 + k := by
  have ne : n ≠ 0 := by omega
  have bounds := (Nat.log2_eq_iff ne).mp rfl
  have positive : 0 < 2 ^ k := Nat.two_pow_pos k
  have moved : n * 2 ^ k ≠ 0 := (Nat.mul_pos pos positive).ne'
  rw [Nat.shiftLeft_eq, Nat.log2_eq_iff moved]
  constructor
  · rw [pow_add]
    exact Nat.mul_le_mul_right _ bounds.1
  · rw [show n.log2 + k + 1 = n.log2 + 1 + k by omega, pow_add]
    exact Nat.mul_lt_mul_of_pos_right bounds.2 positive

/-- A product has twice as many bits, and rounding leaves as many as there were. -/
theorem isFull_mul {u v : UnpackedFloat} {least most least' most' : Int}
    (full : IsFull least most u) (full' : IsFull least' most' v)
    (normal : -1126 ≤ least + least') :
    IsFull (least + least' + 52) (most + most' + 54) (UnpackedFloat.mul Format.binary64 u v) := by
  obtain ⟨s, m, e, pos, rfl, lower, upper, above, below⟩ := full
  obtain ⟨t, n, f, pos', rfl, lower', upper', above', below'⟩ := full'
  have product : m * n ≠ 0 := (Nat.mul_pos pos pos').ne'
  have least : 104 ≤ (m * n).log2 := by
    have width : 2 ^ 104 = 4503599627370496 * 4503599627370496 := by norm_num
    rw [Nat.le_log2 product, width]
    exact Nat.mul_le_mul lower lower'
  have most : (m * n).log2 < 106 := by
    have width : 2 ^ 106 = 9007199254740992 * 9007199254740992 := by norm_num
    rw [Nat.log2_lt product, width]
    exact Nat.mul_lt_mul'' upper upper'
  refine (isFull_roundWithAccuracy (s * t) ?_ ?_).mono ?_ ?_
  all_goals omega

theorem isFull_one : IsFull (-52) (-52) (1.0 : Float).toModel.unpack := by
  have field : (@unpackExponent Format.binary64 (1.0 : Float).toModel.toBits.toBitVec).toNat =
      1023 := by decide +kernel
  exact isFull_unpack field (by decide) (by decide) (by decide) (by decide)

theorem isFull_ofNat {n : Nat} (pos : 0 < n) (fits : n < UInt64.size) :
    IsFull (-52) 14 (Float.ofNat n).toModel.unpack := by
  by_cases small : n < 9007199254740992
  · have log : n.log2 ≤ 52 := log2_le_of_lt pos small
    have shifted := log2_shiftLeft pos (52 - n.log2)
    have full : IsFull (-52) 1 n.toUInt64.toFloat.toModel.unpack := by
      rw [toFloat_eq pos small]
      refine isFull_ofModel ((isFull_roundWithAccuracy _ ?_ ?_).mono ?_ ?_) (by decide) (by decide)
      all_goals omega
    have product := isFull_mul full isFull_one (by decide)
    rw [ofNat_of_small small]
    exact (isFull_ofModel product (by decide) (by decide)).mono (by decide) (by decide)
  · have log : n.log2 ≤ 63 := log2_le_of_lt pos fits
    have shifted := log2_shiftLeft pos 53
    rw [ofNat_of_large small]
    refine isFull_ofModel ((isFull_roundWithAccuracy _ ?_ ?_).mono ?_ ?_) (by decide) (by decide)
    all_goals omega

theorem ofNat_div_self {n : Nat} (pos : 0 < n) (fits : n < UInt64.size) :
    Float.ofNat n / Float.ofNat n = 1.0 := by
  obtain ⟨s, m, e, positive, unpacked, -⟩ := isFull_ofNat pos fits
  exact div_self unpacked

end Share

end Dossier
