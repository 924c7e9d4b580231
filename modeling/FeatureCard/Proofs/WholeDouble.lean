import Mathlib

/-!
# Whole numbers in double precision

Below 2^53 double precision counts whole numbers exactly: sums, differences, products and quotients
that come out whole are not rounded. A whole number is stored with its leading bit in place 52 of
the mantissa, whatever its size; `spare` is by how much it is moved there.
-/

namespace FeatureCard

open Float.Model (Format UnpackedFloat totalExponent)
open Float.Model.UnpackedFloat

def whole (n : Int) : Float := .ofModel (.ofInt n)

def exactLimit : Nat := 2 ^ 53

namespace Whole

/-- The places between the leading bit of `n` and that of a mantissa. -/
def spare (n : Nat) : Nat := 52 - n.log2

theorem log2_le {n : Nat} (hpos : 0 < n) (hn : n < exactLimit) : n.log2 ≤ 52 := by
  have := (Nat.log2_lt (Nat.ne_of_gt hpos)).2 hn
  omega

theorem log2_scaled {n : Nat} (hpos : 0 < n) (shift : Nat) :
    (n * 2 ^ shift).log2 = n.log2 + shift := by
  have hne : n ≠ 0 := Nat.ne_of_gt hpos
  have hscaled : n * 2 ^ shift ≠ 0 :=
    Nat.ne_of_gt (Nat.mul_pos hpos (Nat.two_pow_pos shift))
  refine (Nat.log2_eq_iff hscaled).2 ⟨?_, ?_⟩
  · rw [Nat.pow_add]
    exact Nat.mul_le_mul_right _ (Nat.log2_self_le hne)
  · rw [Nat.add_right_comm, Nat.pow_add]
    exact Nat.mul_lt_mul_of_pos_right Nat.lt_log2_self (Nat.two_pow_pos shift)

theorem scaled_bounds {n : Nat} (hpos : 0 < n) (hn : n < exactLimit) :
    2 ^ 52 ≤ n * 2 ^ spare n ∧ n * 2 ^ spare n < 2 ^ 53 := by
  have hle := log2_le hpos hn
  have hlog : (n * 2 ^ spare n).log2 = 52 := by
    rw [log2_scaled hpos, spare]
    omega
  exact (Nat.log2_eq_iff (Nat.ne_of_gt (Nat.mul_pos hpos (Nat.two_pow_pos _)))).1 hlog

theorem target_scaled {n : Nat} (hpos : 0 < n) (hn : n < exactLimit) (shift : Nat) :
    Format.binary64.targetExponent (totalExponent (n * 2 ^ shift) (-shift)) = -spare n := by
  have hle := log2_le hpos hn
  simp only [Format.targetExponent, totalExponent, log2_scaled hpos, Format.mantissaBits,
    Format.minExponent, spare]
  omega

/-! ## Rounding -/

/-- A mantissa without residual bits. -/
def clean (mantissa : Nat) : ExtendedMantissa := .ofMantissaAndAccuracy mantissa .exact

theorem clean_shiftRight (mantissa shift : Nat) :
    clean (mantissa * 2 ^ shift) >>> shift = clean mantissa := by
  induction shift generalizing mantissa with
  | zero => rw [Nat.pow_zero, Nat.mul_one]; rfl
  | succ shift ih =>
    have hsplit : mantissa * 2 ^ (shift + 1) = mantissa * 2 * 2 ^ shift := by
      rw [Nat.pow_succ', Nat.mul_assoc]
    change ExtendedMantissa.shiftRightOne (clean (mantissa * 2 ^ (shift + 1)) >>> shift) = _
    rw [hsplit, ih]
    simp [clean, ExtendedMantissa.shiftRightOne, ExtendedMantissa.ofMantissaAndAccuracy]

theorem shift_scaled {n : Nat} (hpos : 0 < n) (hn : n < exactLimit) {shift : Nat}
    (hshift : spare n ≤ shift) :
    shiftToTargetExponent Format.binary64 (n * 2 ^ shift) (-shift) .exact =
      (clean (n * 2 ^ spare n), -(spare n : Int)) := by
  have hamount : (-(spare n : Int) - -(shift : Int)).toNat = shift - spare n := by omega
  have hsplit : n * 2 ^ shift = n * 2 ^ spare n * 2 ^ (shift - spare n) := by
    rw [Nat.mul_assoc, ← Nat.pow_add, Nat.add_sub_of_le hshift]
  have hexponent : -(shift : Int) + ((shift - spare n : Nat) : Int) = -(spare n : Int) := by omega
  simp only [shiftToTargetExponent, target_scaled hpos hn, shiftToExponent, hamount, hexponent]
  rw [hsplit]
  exact congrArg (·, -(spare n : Int)) (clean_shiftRight _ _)

def signed (sign : Sign) (n : Nat) (hpos : 0 < n) : UnpackedFloat :=
  .finite sign (n * 2 ^ spare n) (-(spare n : Int)) (Nat.mul_pos hpos (Nat.two_pow_pos _))

theorem roundWithAccuracy_scaled (sign : Sign) {n : Nat} (hpos : 0 < n) (hn : n < exactLimit)
    {shift : Nat} (hshift : spare n ≤ shift) :
    roundWithAccuracy Format.binary64 sign (n * 2 ^ shift) (-shift) .exact =
      signed sign n hpos := by
  have hne : n * 2 ^ spare n ≠ 0 := Nat.ne_of_gt (Nat.mul_pos hpos (Nat.two_pow_pos _))
  have hrounded : (clean (n * 2 ^ spare n)).roundedMantissa = n * 2 ^ spare n := rfl
  unfold roundWithAccuracy
  simp only [shift_scaled hpos hn hshift, hrounded, shift_scaled hpos hn (Nat.le_refl _)]
  exact dif_neg hne

theorem round_scaled (sign : Sign) {n : Nat} (hpos : 0 < n) (hn : n < exactLimit) (shift : Nat) :
    UnpackedFloat.round Format.binary64 sign (n * 2 ^ shift) (-shift) = signed sign n hpos := by
  have hamount : (-(shift : Int) - -(spare n : Int)).toNat = spare n - shift := by omega
  have hmantissa : (n * 2 ^ shift) <<< (spare n - shift) = n * 2 ^ max shift (spare n) := by
    rw [Nat.shiftLeft_eq, Nat.mul_assoc, ← Nat.pow_add]
    congr 2
    omega
  have hexponent : -(shift : Int) - ((spare n - shift : Nat) : Int) =
      -((max shift (spare n) : Nat) : Int) := by omega
  simp only [UnpackedFloat.round, target_scaled hpos hn, decreaseExponent, hamount, hmantissa,
    hexponent]
  exact roundWithAccuracy_scaled sign hpos hn (Nat.le_max_right _ _)

/-! ## Whole numbers, unpacked -/

def unpacked (n : Int) : UnpackedFloat := .ofInt Format.binary64 n

def signOf (n : Int) : Sign := if n < 0 then .negative else .positive

theorem natAbs_scaled (n : Int) (shift : Nat) :
    (n * 2 ^ shift).natAbs = n.natAbs * 2 ^ shift := by
  rw [Int.natAbs_mul, Int.natAbs_pow]
  rfl

theorem normalize_scaled {n : Int} (hn : n.natAbs < exactLimit) (shift : Nat) :
    normalize Format.binary64 (n * 2 ^ shift) (-shift) .positive =
      if h : n = 0 then .zero .positive
      else signed (signOf n) n.natAbs (Int.natAbs_pos.2 h) := by
  have habs := natAbs_scaled n shift
  have hpow : (0 : Int) < 2 ^ shift := Int.pow_pos (by decide)
  unfold Float.Model.UnpackedFloat.normalize signOf
  rcases Int.lt_trichotomy n 0 with hneg | rfl | hpos
  · have hscaled : n * 2 ^ shift < 0 := Int.mul_neg_of_neg_of_pos hneg hpow
    have hmagnitude : (-(n * 2 ^ shift)).toNat = n.natAbs * 2 ^ shift := by omega
    rw [Int.compare_eq_lt.2 hscaled, dif_neg (Int.ne_of_lt hneg)]
    simp only [hmagnitude, if_pos hneg]
    exact round_scaled _ _ hn shift
  · rw [Int.zero_mul, dif_pos rfl]
    rfl
  · have hscaled : 0 < n * 2 ^ shift := Int.mul_pos hpos hpow
    have hmagnitude : (n * 2 ^ shift).toNat = n.natAbs * 2 ^ shift := by omega
    rw [Int.compare_eq_gt.2 hscaled, dif_neg (Int.ne_of_gt hpos)]
    simp only [hmagnitude, if_neg (Int.not_lt.2 (Int.le_of_lt hpos))]
    exact round_scaled _ _ hn shift

theorem unpacked_zero : unpacked 0 = .zero .positive := rfl

theorem unpacked_of_ne {n : Int} (hne : n ≠ 0) (hn : n.natAbs < exactLimit) :
    unpacked n = signed (signOf n) n.natAbs (Int.natAbs_pos.2 hne) := by
  have h := normalize_scaled hn 0
  rw [Int.pow_zero, Int.mul_one, dif_neg hne] at h
  exact h

theorem normalize_eq_unpacked {n : Int} (hn : n.natAbs < exactLimit) (shift : Nat) :
    normalize Format.binary64 (n * 2 ^ shift) (-shift) .positive = unpacked n := by
  rw [normalize_scaled hn]
  split
  · rename_i h
    rw [h]
    rfl
  · rename_i h
    exact (unpacked_of_ne h hn).symm

theorem apply_signOf (n : Int) (shift : Nat) :
    (signOf n).apply ((n.natAbs * 2 ^ shift : Nat) : Int) = n * 2 ^ shift := by
  rw [Int.natCast_mul, Int.natCast_pow]
  unfold signOf Sign.apply
  by_cases hneg : n < 0
  · have habs : (n.natAbs : Int) = -n := by omega
    simp only [if_pos hneg, habs, Int.neg_mul, Int.neg_neg]
    rfl
  · have habs : (n.natAbs : Int) = n := by omega
    simp only [if_neg hneg, habs]
    rfl

/-! ## Sums and differences -/

theorem decreaseExponent_signed {n shift : Nat} (hshift : spare n ≤ shift) :
    decreaseExponent (n * 2 ^ spare n) (-(spare n : Int)) (-(shift : Int)) =
      (n * 2 ^ shift, -(shift : Int)) := by
  have hamount : (-(spare n : Int) - -(shift : Int)).toNat = shift - spare n := by omega
  have hmantissa : (n * 2 ^ spare n) <<< (shift - spare n) = n * 2 ^ shift := by
    rw [Nat.shiftLeft_eq, Nat.mul_assoc, ← Nat.pow_add, Nat.add_sub_of_le hshift]
  have hexponent : -(spare n : Int) - ((shift - spare n : Nat) : Int) = -(shift : Int) := by omega
  simp only [decreaseExponent, hamount, hmantissa, hexponent]

theorem min_neg (a b : Nat) : min (-(a : Int)) (-(b : Int)) = -((max a b : Nat) : Int) := by omega

theorem unpacked_sub {a b : Int} (ha : a.natAbs < exactLimit) (hb : b.natAbs < exactLimit)
    (hab : (a - b).natAbs < exactLimit) :
    UnpackedFloat.sub Format.binary64 (unpacked a) (unpacked b) = unpacked (a - b) := by
  by_cases ha0 : a = 0
  · subst ha0
    by_cases hb0 : b = 0
    · subst hb0
      rfl
    · have hsign : signOf (-b) = -signOf b := by
        unfold signOf
        rcases Int.lt_or_gt_of_ne hb0 with hneg | hpos
        · rw [if_pos hneg, if_neg (by omega : ¬ -b < 0)]
          rfl
        · rw [if_neg (by omega : ¬ b < 0), if_pos (by omega : -b < 0)]
          rfl
      rw [unpacked_zero, unpacked_of_ne hb0 hb, Int.zero_sub,
        unpacked_of_ne (Int.neg_ne_zero.2 hb0) (by omega)]
      simp only [hsign, Int.natAbs_neg]
      rfl
  · by_cases hb0 : b = 0
    · subst hb0
      rw [unpacked_zero, Int.sub_zero, unpacked_of_ne ha0 ha]
      rfl
    · rw [unpacked_of_ne ha0 ha, unpacked_of_ne hb0 hb,
        ← normalize_eq_unpacked hab (max (spare a.natAbs) (spare b.natAbs))]
      simp only [signed, UnpackedFloat.sub, min_neg,
        decreaseExponent_signed (Nat.le_max_left _ _),
        decreaseExponent_signed (Nat.le_max_right _ _), apply_signOf, Int.sub_mul]

theorem unpacked_add {a b : Int} (ha : a.natAbs < exactLimit) (hb : b.natAbs < exactLimit)
    (hab : (a + b).natAbs < exactLimit) :
    UnpackedFloat.add Format.binary64 (unpacked a) (unpacked b) = unpacked (a + b) := by
  by_cases ha0 : a = 0
  · subst ha0
    rw [Int.zero_add]
    by_cases hb0 : b = 0
    · subst hb0
      rfl
    · rw [unpacked_zero, unpacked_of_ne hb0 hb]
      rfl
  · by_cases hb0 : b = 0
    · subst hb0
      rw [unpacked_zero, Int.add_zero, unpacked_of_ne ha0 ha]
      rfl
    · rw [unpacked_of_ne ha0 ha, unpacked_of_ne hb0 hb,
        ← normalize_eq_unpacked hab (max (spare a.natAbs) (spare b.natAbs))]
      simp only [signed, UnpackedFloat.add, min_neg,
        decreaseExponent_signed (Nat.le_max_left _ _),
        decreaseExponent_signed (Nat.le_max_right _ _), apply_signOf, Int.add_mul]

/-! ## Products and quotients -/

theorem unpacked_of_pos {n : Nat} (hpos : 0 < n) (hn : n < exactLimit) :
    unpacked n = signed .positive n hpos := by
  have hne : (n : Int) ≠ 0 := Int.natCast_ne_zero.2 (Nat.ne_of_gt hpos)
  rw [unpacked_of_ne hne hn]
  simp only [signOf, if_neg (Int.not_lt.2 (Int.natCast_nonneg n)), Int.natAbs_natCast]

theorem log2_mul {a b : Nat} (ha : 0 < a) (hb : 0 < b) :
    a.log2 + b.log2 ≤ (a * b).log2 ∧ (a * b).log2 ≤ a.log2 + b.log2 + 1 := by
  have ha0 : a ≠ 0 := Nat.ne_of_gt ha
  have hb0 : b ≠ 0 := Nat.ne_of_gt hb
  have hab0 : a * b ≠ 0 := Nat.ne_of_gt (Nat.mul_pos ha hb)
  constructor
  · rw [Nat.le_log2 hab0, Nat.pow_add]
    exact Nat.mul_le_mul (Nat.log2_self_le ha0) (Nat.log2_self_le hb0)
  · have hlt : (a * b).log2 < a.log2 + 1 + (b.log2 + 1) := by
      rw [Nat.log2_lt hab0, Nat.pow_add]
      exact Nat.mul_lt_mul'' Nat.lt_log2_self Nat.lt_log2_self
    omega

theorem unpacked_mul {a b : Nat} (ha : 0 < a) (hb : 0 < b) (hab : a * b < exactLimit) :
    UnpackedFloat.mul Format.binary64 (unpacked a) (unpacked b) = unpacked (a * b : Nat) := by
  have hpos : 0 < a * b := Nat.mul_pos ha hb
  have haLimit : a < exactLimit := Nat.lt_of_le_of_lt (Nat.le_mul_of_pos_right a hb) hab
  have hbLimit : b < exactLimit := Nat.lt_of_le_of_lt (Nat.le_mul_of_pos_left b ha) hab
  have hlog := log2_mul ha hb
  have hloga := log2_le ha haLimit
  have hlogb := log2_le hb hbLimit
  have hspare : spare (a * b) ≤ spare a + spare b := by
    simp only [spare]
    omega
  have hmantissa : a * 2 ^ spare a * (b * 2 ^ spare b) = a * b * 2 ^ (spare a + spare b) := by
    rw [Nat.pow_add, Nat.mul_mul_mul_comm]
  have hexponent : -(spare a : Int) + -(spare b : Int) = -((spare a + spare b : Nat) : Int) := by
    omega
  rw [unpacked_of_pos ha haLimit, unpacked_of_pos hb hbLimit, unpacked_of_pos hpos hab]
  simp only [signed, UnpackedFloat.mul, hmantissa, hexponent]
  exact roundWithAccuracy_scaled .positive hpos hab hspare

theorem unpacked_div {a b : Nat} (ha : 0 < a) (hb : 0 < b) (hab : a * b < exactLimit) :
    UnpackedFloat.div Format.binary64 (unpacked (a * b : Nat)) (unpacked b) = unpacked a := by
  have hpos : 0 < a * b := Nat.mul_pos ha hb
  have haLimit : a < exactLimit := Nat.lt_of_le_of_lt (Nat.le_mul_of_pos_right a hb) hab
  have hbLimit : b < exactLimit := Nat.lt_of_le_of_lt (Nat.le_mul_of_pos_left b ha) hab
  have hlog := log2_mul ha hb
  have hlogb := log2_le hb hbLimit
  have hlogab := log2_le hpos hab
  let shift := 53 + b.log2 - (a * b).log2
  have hmantissa : (a * b * 2 ^ spare (a * b)) <<< 53 = a * 2 ^ shift * (b * 2 ^ spare b) := by
    rw [Nat.shiftLeft_eq, Nat.mul_assoc (a * b), ← Nat.pow_add, Nat.mul_mul_mul_comm a,
      ← Nat.pow_add]
    congr 2
    simp only [spare, shift]
    omega
  have htarget : min (-(spare (a * b) : Int) - -(spare b : Int))
      (Format.binary64.targetExponent
        (totalExponent (a * b * 2 ^ spare (a * b)) (-(spare (a * b) : Int)) -
          totalExponent (b * 2 ^ spare b) (-(spare b : Int)))) = -(shift : Int) := by
    simp only [Format.targetExponent, totalExponent, log2_scaled hpos, log2_scaled hb,
      Format.mantissaBits, Format.minExponent, spare, shift]
    omega
  have hamount : (-(spare (a * b) : Int) - -(spare b : Int) - -(shift : Int)).toNat = 53 := by
    simp only [spare, shift]
    omega
  have hdivisor : 0 < b * 2 ^ spare b := Nat.mul_pos hb (Nat.two_pow_pos _)
  rw [unpacked_of_pos hpos hab, unpacked_of_pos hb hbLimit, unpacked_of_pos ha haLimit]
  simp only [signed, UnpackedFloat.div, divCore, htarget, hamount, hmantissa,
    Nat.mul_div_cancel _ hdivisor, Nat.mul_mod_left]
  refine roundWithAccuracy_scaled .positive ha haLimit ?_
  simp only [spare, shift]
  omega

/-! ## Storing -/

theorem implicit_bit {mantissa : Nat} (hlo : 2 ^ 52 ≤ mantissa) (hhi : mantissa < 2 ^ 53) :
    (1#1 ++ BitVec.ofNat 52 mantissa).toNat = mantissa := by
  rw [BitVec.toNat_append, BitVec.toNat_ofNat, BitVec.toNat_ofNat]
  change 1 <<< 52 ||| mantissa % 2 ^ 52 = mantissa
  rw [← Nat.shiftLeft_add_eq_or_of_lt (Nat.mod_lt mantissa (Nat.two_pow_pos 52)), Nat.shiftLeft_eq]
  omega

theorem unpack_pack_signed (sign : Sign) {n : Nat} (hpos : 0 < n) (hn : n < exactLimit) :
    unpack Format.binary64 (pack Format.binary64 (signed sign n hpos)) = signed sign n hpos := by
  obtain ⟨hlo, hhi⟩ := scaled_bounds hpos hn
  have hlog : (n * 2 ^ spare n).log2 = 52 :=
    (Nat.log2_eq_iff (Nat.ne_of_gt (Nat.lt_of_lt_of_le (by decide) hlo))).2 ⟨hlo, hhi⟩
  have hspare : spare n ≤ 52 := Nat.sub_le _ _
  have hbiased : (-(spare n : Int) + Format.binary64.exponentBias + (52 : Nat)).toNat =
      1075 - spare n := by
    change (-(spare n : Int) + 1023 + 52).toNat = _
    omega
  have hfits : ¬ 2 ^ 11 ≤ 1075 - spare n + 1 := by omega
  have hbits : (BitVec.ofNat 11 (1075 - spare n)).toNat = 1075 - spare n :=
    Nat.mod_eq_of_lt (by omega)
  have hfinite : BitVec.ofNat 11 (1075 - spare n) ≠ -1#11 := by
    intro h
    have := congrArg BitVec.toNat h
    rw [hbits] at this
    change 1075 - spare n = 2047 at this
    omega
  have hnormal : BitVec.ofNat 11 (1075 - spare n) ≠ 0#11 := by
    intro h
    have := congrArg BitVec.toNat h
    rw [hbits] at this
    change 1075 - spare n = 0 at this
    omega
  have hexponent : ((1075 - spare n : Nat) : Int) -
      (Format.binary64.exponentBias + (52 : Nat)) = -(spare n : Int) := by
    change ((1075 - spare n : Nat) : Int) - (1023 + 52) = _
    omega
  have hpacked : pack Format.binary64 (signed sign n hpos) =
      packComponents Format.binary64 sign (BitVec.ofNat 11 (1075 - spare n))
        (BitVec.ofNat 52 (n * 2 ^ spare n)) := by
    simp only [pack, signed, hbiased, if_neg hfits, hlog]
    rfl
  rw [hpacked]
  simp only [unpack, unpackMantissa_packComponents, unpackExponent_packComponents,
    unpackSign_packComponents, if_neg hfinite, if_neg hnormal, hbits, hexponent,
    Sign.ofBitVec_toBitVec, implicit_bit hlo hhi]
  rfl

theorem unpack_whole {n : Int} (hn : n.natAbs < exactLimit) :
    (whole n).toModel.unpack = unpacked n := by
  change unpack Format.binary64 (pack Format.binary64 (unpacked n)) = unpacked n
  by_cases hne : n = 0
  · rw [hne]
    rfl
  · rw [unpacked_of_ne hne hn]
    exact unpack_pack_signed _ _ hn

end Whole

/-! ## Whole doubles -/

open Whole

theorem whole_sub {a b : Int} (ha : a.natAbs < exactLimit) (hb : b.natAbs < exactLimit)
    (hab : (a - b).natAbs < exactLimit) : whole a - whole b = whole (a - b) := by
  change Float.ofModel (.pack (UnpackedFloat.sub _ _ _)) = Float.ofModel (.pack (unpacked (a - b)))
  rw [unpack_whole ha, unpack_whole hb, unpacked_sub ha hb hab]

theorem whole_add {a b : Int} (ha : a.natAbs < exactLimit) (hb : b.natAbs < exactLimit)
    (hab : (a + b).natAbs < exactLimit) : whole a + whole b = whole (a + b) := by
  change Float.ofModel (.pack (UnpackedFloat.add _ _ _)) = Float.ofModel (.pack (unpacked (a + b)))
  rw [unpack_whole ha, unpack_whole hb, unpacked_add ha hb hab]

theorem whole_mul {a b : Nat} (ha : 0 < a) (hb : 0 < b) (hab : a * b < exactLimit) :
    whole a * whole b = whole (a * b : Nat) := by
  have haLimit : a < exactLimit := Nat.lt_of_le_of_lt (Nat.le_mul_of_pos_right a hb) hab
  have hbLimit : b < exactLimit := Nat.lt_of_le_of_lt (Nat.le_mul_of_pos_left b ha) hab
  change Float.ofModel (.pack (UnpackedFloat.mul _ _ _)) =
    Float.ofModel (.pack (unpacked (a * b : Nat)))
  rw [unpack_whole (n := a) haLimit, unpack_whole (n := b) hbLimit, unpacked_mul ha hb hab]

theorem whole_div {a b : Nat} (ha : 0 < a) (hb : 0 < b) (hab : a * b < exactLimit) :
    whole (a * b : Nat) / whole b = whole a := by
  have hbLimit : b < exactLimit := Nat.lt_of_le_of_lt (Nat.le_mul_of_pos_left b ha) hab
  change Float.ofModel (.pack (UnpackedFloat.div _ _ _)) = Float.ofModel (.pack (unpacked a))
  rw [unpack_whole (n := (a * b : Nat)) hab, unpack_whole (n := b) hbLimit,
    unpacked_div ha hb hab]

theorem toFloat_eq_whole (n : UInt32) : n.toFloat = whole n.toNat := rfl

theorem zero_eq_whole : (0 : Float) = whole 0 := by decide +kernel

theorem isInf_whole {n : Int} (hn : n.natAbs < exactLimit) : (whole n).isInf = false := by
  unfold Float.isInf Float.Model.isInf
  rw [unpack_whole hn]
  by_cases hne : n = 0
  · rw [hne]
    rfl
  · rw [unpacked_of_ne hne hn]
    rfl

theorem compare_zero {n : Int} (hn : n.natAbs < exactLimit) :
    UnpackedFloat.compare (unpacked 0) (unpacked n) = some (compare 0 n) ∧
      UnpackedFloat.compare (unpacked n) (unpacked 0) = some (compare n 0) := by
  rcases Int.lt_trichotomy n 0 with hneg | rfl | hpos
  · rw [unpacked_of_ne (Int.ne_of_lt hneg) hn, signed, signOf, if_pos hneg,
      Int.compare_eq_lt.2 hneg, Int.compare_eq_gt.2 hneg]
    exact ⟨rfl, rfl⟩
  · exact ⟨rfl, rfl⟩
  · rw [unpacked_of_ne (Int.ne_of_gt hpos) hn, signed, signOf,
      if_neg (Int.not_lt.2 (Int.le_of_lt hpos)), Int.compare_eq_gt.2 hpos, Int.compare_eq_lt.2 hpos]
    exact ⟨rfl, rfl⟩

theorem whole_le_zero {n : Int} (hn : n.natAbs < exactLimit) : whole n ≤ 0 ↔ n ≤ 0 := by
  have hle : whole n ≤ whole 0 ↔
      (UnpackedFloat.compare (whole n).toModel.unpack (whole 0).toModel.unpack).any (·.isLE) =
        true := decide_eq_true_iff
  rw [zero_eq_whole, hle, unpack_whole hn, unpack_whole (by decide), (compare_zero hn).2]
  simp [Int.isLE_compare]

theorem zero_lt_whole {n : Int} (hn : n.natAbs < exactLimit) : 0 < whole n ↔ 0 < n := by
  have hlt : whole 0 < whole n ↔
      (UnpackedFloat.compare (whole 0).toModel.unpack (whole n).toModel.unpack == some .lt) =
        true := decide_eq_true_iff
  rw [zero_eq_whole, hlt, unpack_whole hn, unpack_whole (by decide), (compare_zero hn).1]
  simp [Int.compare_eq_lt]

end FeatureCard
