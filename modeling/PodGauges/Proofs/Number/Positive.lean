import Mathlib
import PodGauges.Proofs.Number.Order
import PodGauges.Proofs.Number.Range

/-! Positive integers as doubles. The double nearest to one is finite and greater than zero, so that
it can be divided by, and zero over it is zero. -/
namespace PodGauges.Number

open Float.Model Float.Model.UnpackedFloat

/-! ## Normal doubles -/

section Normal

variable {exponent : BitVec 11} {mantissa : BitVec 52}

theorem toNat_append {v w : Nat} (high : BitVec v) (low : BitVec w) :
    (high ++ low).toNat = high.toNat * 2 ^ w + low.toNat := by
  rw [BitVec.toNat_append, ← Nat.shiftLeft_add_eq_or_of_lt low.isLt, Nat.shiftLeft_eq]

/-- The bit that is not written stands before those of the mantissa. -/
theorem toNat_implicit (mantissa : BitVec 52) :
    (1#1 ++ mantissa).toNat = 2 ^ 52 + mantissa.toNat := by
  rw [toNat_append]
  rfl

/-- With exponent bits that are neither all zeros nor all ones a double without a sign is finite
and positive. -/
theorem unpack_packComponents (hZeros : exponent ≠ 0#11) (hOnes : exponent ≠ -1#11) :
    ∃ h, unpack .binary64 (packComponents .binary64 .positive exponent mantissa) =
      .finite .positive (1#1 ++ mantissa).toNat (exponent.toNat - (1023 + 52 : Nat)) h := by
  have hSign : Sign.ofBitVec
      (unpackSign (packComponents .binary64 .positive exponent mantissa)) = .positive := by
    simp only [unpackSign, packComponents, BitVec.extractLsb]
    rw [BitVec.extractLsb'_append_eq_of_le (by decide),
      BitVec.extractLsb'_append_eq_of_le (by decide)]
    rfl
  refine ⟨by rw [toNat_implicit]; omega, ?_⟩
  unfold UnpackedFloat.unpack
  simp only [unpackMantissa_packComponents, unpackExponent_packComponents, hSign]
  rw [if_neg hOnes, if_neg hZeros]
  rfl

/-- A normal double is put together from its mantissa and exponent again. -/
theorem pack_finite (hOnes : exponent ≠ -1#11) (h : 0 < (1#1 ++ mantissa).toNat) :
    pack .binary64
        (.finite .positive (1#1 ++ mantissa).toNat (exponent.toNat - (1023 + 52 : Nat)) h) =
      packComponents .binary64 .positive exponent mantissa := by
  have hBound := mantissa.isLt
  have hLog : (1#1 ++ mantissa).toNat.log2 = 52 := by
    rw [toNat_implicit]
    exact (Nat.log2_eq_iff (by omega)).mpr ⟨by omega, by omega⟩
  have hBiased : ((exponent.toNat - (1023 + 52 : Nat) : Int) + Format.binary64.exponentBias +
      Format.binary64.mantissaBitsWithoutImplicit).toNat = exponent.toNat := by
    change ((exponent.toNat : Int) - (1023 + 52 : Nat) + (1023 : Int) + (52 : Nat)).toNat = _
    omega
  have hTop : ¬ 2 ^ 11 ≤ exponent.toNat + 1 := by
    have hMost : exponent.toNat ≠ 2 ^ 11 - 1 := fun h => hOnes (BitVec.eq_of_toNat_eq h)
    omega
  have hExponent : BitVec.ofNat 11 exponent.toNat = exponent :=
    BitVec.eq_of_toNat_eq (by rw [BitVec.toNat_ofNat]; omega)
  have hMantissa : BitVec.ofNat 52 (1#1 ++ mantissa).toNat = mantissa :=
    BitVec.eq_of_toNat_eq (by rw [BitVec.toNat_ofNat, toNat_implicit]; omega)
  unfold UnpackedFloat.pack
  dsimp only
  rw [hBiased, if_neg hTop, hLog, if_pos (by rfl)]
  exact congrArg₂ (packComponents .binary64 .positive) hExponent hMantissa

/-- Bits from those of the least normal double up to those of the greatest are of a positive one. -/
theorem parts_ofBits {bits : Nat} (hLow : 2 ^ 52 ≤ bits) (hHigh : bits < infinityBits) :
    ∃ mantissa exponent h, parts (Float.ofBits (UInt64.ofNat bits)) =
      .finite .positive mantissa exponent h := by
  have hInfinity : infinityBits = 2047 * 2 ^ 52 := rfl
  have hField : (BitVec.ofNat 11 (bits / 2 ^ 52)).toNat = bits / 2 ^ 52 := by
    rw [BitVec.toNat_ofNat]
    omega
  have hZeros : BitVec.ofNat 11 (bits / 2 ^ 52) ≠ 0#11 := by
    intro h
    rw [h, BitVec.toNat_zero] at hField
    omega
  have hOnes : BitVec.ofNat 11 (bits / 2 ^ 52) ≠ -1#11 := by
    intro h
    rw [h, BitVec.toNat_neg, BitVec.toNat_ofNat] at hField
    omega
  have hBits : (UInt64.ofNat bits).toBitVec = packComponents .binary64 .positive
      (BitVec.ofNat 11 (bits / 2 ^ 52)) (BitVec.ofNat 52 bits) := by
    refine BitVec.eq_of_toNat_eq ?_
    change (BitVec.ofNat 64 bits).toNat =
      (0#1 ++ BitVec.ofNat 11 (bits / 2 ^ 52) ++ BitVec.ofNat 52 bits).toNat
    rw [toNat_append, toNat_append, hField, BitVec.toNat_zero, BitVec.toNat_ofNat,
      BitVec.toNat_ofNat]
    omega
  obtain ⟨h, hUnpack⟩ := @unpack_packComponents _ (BitVec.ofNat 52 bits) hZeros hOnes
  have hParts : parts (Float.ofBits (UInt64.ofNat bits)) =
      unpack .binary64 (pack .binary64 (unpack .binary64 (UInt64.ofNat bits).toBitVec)) := rfl
  exact ⟨_, _, h, by rw [hParts, hBits, hUnpack, pack_finite hOnes, hUnpack]⟩

end Normal

/-! ## Positive integers -/

/-- The bits nearest to a positive integer are not less than those of the least normal double. -/
theorem le_nearestBits {n : Nat} (hn : 0 < n) : 2 ^ 52 ≤ nearestBits n 1 := by
  have hExponent : 0 ≤ binaryExponent n 1 := by
    by_contra hBelow
    have hSmall : (n / (1 : Nat) : ℚ) < 1 :=
      (binaryExponent_spec hn Nat.one_pos).2.trans_le
        (zpow_le_one_of_nonpos₀ one_le_two (by omega))
    rw [Nat.cast_one, div_one] at hSmall
    exact absurd (Nat.cast_lt_one.mp hSmall) hn.ne'
  have hPlace : -1074 < lastPlace n 1 := by
    unfold lastPlace
    omega
  rw [nearestBits_eq]
  exact (le_mantissa hn Nat.one_pos hPlace).trans (Nat.le_add_left _ _)

/-- A positive integer is given a positive double. -/
theorem parts_realOfInteger {n : Int} (hn : 0 < n) {x : Float} (h : realOfInteger n = .ok x) :
    ∃ mantissa exponent h, parts x = .finite .positive mantissa exponent h := by
  have hAbs : 0 < n.natAbs := Int.natAbs_pos.mpr hn.ne'
  unfold realOfInteger ofInteger? ofQuotient? nearest? at h
  rw [if_neg hAbs.ne'] at h
  dsimp only at h
  split_ifs at h with hBits
  · rw [decide_eq_false (Int.not_lt.mpr hn.le)] at h
    cases h
    exact parts_ofBits (le_nearestBits hAbs) hBits
  · cases h

section Divisor

variable {x : Float} {mantissa : Nat} {exponent : Int} {h : 0 < mantissa}
  (hx : parts x = .finite .positive mantissa exponent h)
include hx

theorem not_equal_zero_of_positive : (x == 0.0) = false := by
  refine Bool.eq_false_iff.mpr fun hEqual => ?_
  have hRank : rank (parts x) = rank (parts 0.0) := (equal_iff_rank.mp hEqual).2.2
  have hZero : parts 0.0 = .zero .positive := rfl
  rw [hx, hZero] at hRank
  simp [rank] at hRank

/-- Divided by a positive double zero stays zero. -/
theorem zero_div_of_positive : 0.0 / x = 0.0 := by
  have hDiv : 0.0 / x = .ofModel (.pack (UnpackedFloat.div .binary64 (parts 0.0) (parts x))) := rfl
  rw [hDiv, hx]
  rfl

end Divisor

end PodGauges.Number
