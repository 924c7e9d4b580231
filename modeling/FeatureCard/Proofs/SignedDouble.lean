import Mathlib
import FeatureCard.Decimal.Reading

/-!
# Doubles with a sign

Doubles are written with a sign or without, and infinity and the number that is none have names. A
positive finite double is written without a minus sign and without a name, so the reader for those
finds what the reader for all doubles finds, if that is positive and finite.
-/

namespace FeatureCard.Decimal

open Float.Model (Format UnpackedFloat)
open Float.Model.UnpackedFloat

def infinity : Float := Float.ofBits infinityBits.toUInt64

def notANumber : Float := Float.ofBits 0x7FF8000000000000

/-- The doubles with a name. Capital letters are as good as small ones. -/
def named? (cs : List Char) : Option Float :=
  let word := cs.map Char.toLower
  if word = "inf".toList ∨ word = "infinity".toList then some infinity
  else if word = "nan".toList then some notANumber
  else none

def unsigned? (cs : List Char) : Option Float :=
  (named? cs).or ((magnitude? cs).map Magnitude.toDouble)

/-- Any double. The sign stands in front. -/
def double? : List Char → Option Float
  | '-' :: cs => (unsigned? cs).map (- ·)
  | '+' :: cs => unsigned? cs
  | cs => unsigned? cs

def isPositive (x : Float) : Bool := 0 < x && x.isFinite

/-! ## Signs -/

/-- The number has this sign, or it is none. -/
def HasSign (sign : Sign) : UnpackedFloat → Prop
  | .notANumber => True
  | .infinity s | .zero s | .finite s _ _ _ => s = sign

theorem hasSign_neg {f : UnpackedFloat} (h : HasSign .positive f) : HasSign .negative f.neg := by
  cases f with
  | notANumber => trivial
  | infinity s | zero s | finite s m e hm =>
    obtain rfl : s = .positive := h
    rfl

theorem hasSign_unpack (b : BitVec 64) :
    HasSign (.ofBitVec (@unpackSign Format.binary64 b)) (unpack Format.binary64 b) := by
  fun_cases unpack Format.binary64 b <;> trivial

theorem sign_packComponents (sign : Sign) (exponent : BitVec 11) (mantissa : BitVec 52) :
    Sign.ofBitVec (unpackSign (packComponents Format.binary64 sign exponent mantissa)) = sign := by
  unfold unpackSign packComponents BitVec.extractLsb
  rw [BitVec.extractLsb'_append_eq_of_le (by decide),
    BitVec.extractLsb'_append_eq_of_le (by decide)]
  cases sign <;> rfl

theorem sign_pack {sign : Sign} {f : UnpackedFloat} (h : HasSign sign f) (hf : f ≠ .notANumber) :
    Sign.ofBitVec (unpackSign (pack Format.binary64 f)) = sign := by
  fun_cases pack Format.binary64 f with
  | case1 => exact absurd rfl hf
  | case2 s | case3 s | case4 s | case5 s | case6 s =>
    obtain rfl : s = sign := h
    exact sign_packComponents _ _ _

theorem hasSign_pack {sign : Sign} {f : UnpackedFloat} (h : HasSign sign f) :
    HasSign sign (unpack Format.binary64 (pack Format.binary64 f)) := by
  by_cases hf : f = .notANumber
  · subst hf
    have hnone : unpack Format.binary64 (pack Format.binary64 .notANumber) = .notANumber := rfl
    rw [hnone]
    trivial
  · have hsign := hasSign_unpack (pack Format.binary64 f)
    rwa [sign_pack h hf] at hsign

theorem not_lt_of_hasSign {f : UnpackedFloat} (h : HasSign .negative f) :
    (UnpackedFloat.zero .positive).lt f = false := by
  cases f with
  | notANumber => rfl
  | infinity s | zero s | finite s m e hm =>
    obtain rfl : s = .negative := h
    rfl

theorem not_pos_neg_ofBits {bits : UInt64} (h : bits.toNat < 2 ^ 63) :
    ¬(0 : Float) < -Float.ofBits bits := by
  have hsign : HasSign .positive (unpack Format.binary64 bits.toBitVec) := by
    have hclear : bits.toNat / 2 ^ 63 % 2 = 0 := by omega
    have hbit : @unpackSign Format.binary64 bits.toBitVec = 0#1 := by
      apply BitVec.eq_of_toNat_eq
      simpa [unpackSign, BitVec.extractLsb_toNat, Nat.shiftRight_eq_div_pow] using hclear
    have hunpacked := hasSign_unpack bits.toBitVec
    rwa [hbit] at hunpacked
  have hneg : (0 : Float).toModel.unpack.lt (-Float.ofBits bits).toModel.unpack = false :=
    not_lt_of_hasSign (hasSign_pack (hasSign_neg (hasSign_pack hsign)))
  intro hlt
  have hpos : (0 : Float).toModel.unpack.lt (-Float.ofBits bits).toModel.unpack = true :=
    of_decide_eq_true hlt
  rw [hneg] at hpos
  cases hpos

theorem not_pos_neg_bits {n : Nat} (h : n ≤ infinityBits) :
    ¬(0 : Float) < -Float.ofBits n.toUInt64 := by
  have hbound : infinityBits < 2 ^ 63 := by norm_num [infinityBits]
  have hle : n.toUInt64.toNat ≤ n := by
    rw [Nat.toUInt64_eq, UInt64.toNat_ofNat']
    exact Nat.mod_le _ _
  exact not_pos_neg_ofBits (Nat.lt_of_le_of_lt (hle.trans h) hbound)

theorem bitsOfRat_le (x : Rat) : bitsOfRat x ≤ infinityBits := by
  unfold bitsOfRat
  exact Nat.min_le_left _ _

theorem isPositive_neg_toDouble (m : Magnitude) : isPositive (-m.toDouble) = false := by
  have hzero : ¬(0 : Float) < -0 := by decide +kernel
  have hnot : ¬(0 : Float) < -m.toDouble := by
    unfold Magnitude.toDouble doubleOfRat
    dsimp only
    split
    · exact hzero
    · split
      · exact not_pos_neg_bits (Nat.le_refl _)
      · split
        · exact hzero
        · exact not_pos_neg_bits (bitsOfRat_le _)
  unfold isPositive
  rw [decide_eq_false hnot, Bool.false_and]

/-! ## Names -/

theorem isPositive_of_named {cs : List Char} {x : Float} (h : named? cs = some x) :
    isPositive x = false ∧ isPositive (-x) = false := by
  have hinfinity : isPositive infinity = false ∧ isPositive (-infinity) = false := by decide +kernel
  have hnone : isPositive notANumber = false ∧ isPositive (-notANumber) = false := by
    decide +kernel
  unfold named? at h
  dsimp only at h
  split at h
  · exact Option.some.inj h ▸ hinfinity
  · split at h
    · exact Option.some.inj h ▸ hnone
    · cases h

theorem magnitude?_cons {c : Char} (hdigit : c.isDigit = false) (hpoint : c ≠ '.')
    (cs : List Char) : magnitude? (c :: cs) = none := by
  have hspan : Text.spanDigits (c :: cs) = ([], c :: cs) := by
    unfold Text.spanDigits
    rw [List.takeWhile_cons_of_neg (Bool.eq_false_iff.1 hdigit),
      List.dropWhile_cons_of_neg (Bool.eq_false_iff.1 hdigit)]
  have hfraction : spanFraction (c :: cs) = ([], c :: cs) := by
    unfold spanFraction
    split
    · rename_i heq
      exact absurd (List.cons.inj heq).1 hpoint
    · rfl
  unfold magnitude?
  simp only [hspan, hfraction]
  rfl

theorem magnitude?_of_named {cs : List Char} {x : Float} (h : named? cs = some x) :
    magnitude? cs = none := by
  have hletter : ∃ c ds, cs = c :: ds ∧ (c.toLower = 'i' ∨ c.toLower = 'n') := by
    cases cs with
    | nil => exact absurd h nofun
    | cons c ds =>
      refine ⟨c, ds, rfl, ?_⟩
      by_contra hother
      rw [not_or] at hother
      simp [named?, hother.1, hother.2] at h
  obtain ⟨c, ds, rfl, hc⟩ := hletter
  apply magnitude?_cons
  · by_contra hdigit
    have hbelow : c.val ≤ '9'.val := by simp_all [Char.isDigit]
    have hsmall : c.toLower = c := by
      refine dif_neg fun hcapital => ?_
      have hletter : 'A'.val ≤ '9'.val := UInt32.le_trans hcapital.1 hbelow
      exact absurd hletter (by decide)
    rw [hsmall] at hc
    rcases hc with rfl | rfl <;> exact hdigit rfl
  · rintro rfl
    revert hc
    decide

/-- The reader for positive doubles is the reader for all doubles with a check behind it. -/
theorem positive?_eq (cs : List Char) : positive? cs = (double? cs).filter isPositive := by
  have hunsigned (ds : List Char) :
      ((magnitude? ds).map Magnitude.toDouble).filter isPositive =
        (unsigned? ds).filter isPositive := by
    unfold unsigned?
    cases hnamed : named? ds with
    | none => rw [Option.none_or]
    | some x =>
      rw [magnitude?_of_named hnamed, Option.some_or]
      exact (Option.filter_some_neg (isPositive_of_named hnamed).1).symm
  have hminus (ds : List Char) : ((unsigned? ds).map (- ·)).filter isPositive = none := by
    unfold unsigned?
    cases hnamed : named? ds with
    | some x =>
      rw [Option.some_or]
      exact Option.filter_some_neg (isPositive_of_named hnamed).2
    | none =>
      rw [Option.none_or]
      cases magnitude? ds with
      | none => rfl
      | some m => exact Option.filter_some_neg (isPositive_neg_toDouble m)
  unfold positive? double?
  split
  · exact hunsigned _
  · rename_i hplus
    split
    · rename_i ds
      rw [hminus]
      have hnone := magnitude?_cons (c := '-') rfl (by decide) ds
      simp only [hnone, Option.map_none, Option.filter_none]
    · exact absurd rfl (hplus _)
    · exact hunsigned _

end FeatureCard.Decimal
