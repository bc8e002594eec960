import Mathlib
import PodGauges.Proofs.Number.Rounding

/-! Which integers and quotients a double can hold. Half a unit of the last place beyond the
greatest double the rounding goes up, and there is no double above it. -/
namespace PodGauges.Number

/-- The least natural number that is beyond the doubles when rounded. -/
def firstTooLarge : Nat := 2 ^ 1024 - 2 ^ 970

/-- The least number that no double holds lies half a unit above the greatest double. -/
theorem firstTooLarge_eq : firstTooLarge = (2 ^ 54 - 1) * 2 ^ 970 := by decide +kernel

/-- The numbers of the kernel are far from those that no double holds. -/
theorem toNat_lt_firstTooLarge (n : UInt64) : n.toNat < firstTooLarge :=
  n.toNat_lt.trans_le (by decide +kernel)

/-! ## Quotients -/

section Quotients

variable {num den : Nat} (hNum : 0 < num) (hDen : 0 < den)
include hNum hDen

theorem lt_of_binaryExponent_lt (h : binaryExponent num den < 1023) :
    num < firstTooLarge * den := by
  have hDenCast : (0 : ℚ) < den := by exact_mod_cast hDen
  have hQuotient : (num : ℚ) / den < 2 ^ 1023 :=
    calc (num : ℚ) / den < 2 ^ (binaryExponent num den + 1) := (binaryExponent_spec hNum hDen).2
      _ ≤ 2 ^ (1023 : Int) := zpow_le_zpow_right₀ one_le_two (by omega)
  have hProduct : num < 2 ^ 1023 * den := by
    rw [div_lt_iff₀ hDenCast] at hQuotient
    exact_mod_cast hQuotient
  exact hProduct.trans_le (Nat.mul_le_mul_right _ (by decide +kernel))

/-- A quotient with an exponent above the greatest is out of range. -/
theorem le_of_lt_binaryExponent (h : 1023 < binaryExponent num den) :
    firstTooLarge * den ≤ num := by
  have hDenCast : (0 : ℚ) < den := by exact_mod_cast hDen
  have hQuotient : (2 : ℚ) ^ 1024 ≤ num / den :=
    calc (2 : ℚ) ^ (1024 : Int) ≤ 2 ^ binaryExponent num den :=
          zpow_le_zpow_right₀ one_le_two (by omega)
      _ ≤ num / den := (binaryExponent_spec hNum hDen).1
  have hProduct : 2 ^ 1024 * den ≤ num := by
    rw [le_div_iff₀ hDenCast] at hQuotient
    exact_mod_cast hQuotient
  exact (Nat.mul_le_mul_right _ (by decide +kernel)).trans hProduct

omit hNum in
/-- With the greatest exponent there is a double unless the mantissa carries. -/
theorem mantissa_lt_iff (h : binaryExponent num den = 1023) :
    mantissa num den < 2 ^ 53 ↔ num < firstTooLarge * den := by
  have hPlace : lastPlace num den = 971 := by
    unfold lastPlace
    omega
  have hNum : num <<< (-lastPlace num den).toNat = num := by
    rw [hPlace]
    rfl
  have hDen' : den <<< (lastPlace num den).toNat = 2 * (den <<< 970) := by
    rw [hPlace]
    exact Nat.shiftLeft_succ den 970
  have hBound : firstTooLarge * den = (2 ^ 54 - 1) * (den <<< 970) := by
    rw [firstTooLarge_eq, Nat.shiftLeft_eq, Nat.mul_assoc, Nat.mul_comm den]
  rw [mantissa, divHalfEven_lt_iff (shifted_pos hDen _) (by decide), hNum, hDen', hBound]
  generalize den <<< 970 = unit
  omega

/-- The bits of a quotient are those of a finite double up to the bound. -/
theorem nearestBits_lt_infinityBits_iff :
    nearestBits num den < infinityBits ↔ num < firstTooLarge * den := by
  have hInfinity : infinityBits = 2047 * 2 ^ 52 := rfl
  have hPlace : lastPlace num den = max (binaryExponent num den - 52) (-1074) := rfl
  have hMantissa := mantissa_le hNum hDen
  rw [nearestBits_eq, hInfinity]
  rcases lt_trichotomy (binaryExponent num den) 1023 with hBelow | hTop | hAbove
  · exact iff_of_true (by omega) (lt_of_binaryExponent_lt hNum hDen hBelow)
  · rw [← mantissa_lt_iff hDen hTop]
    omega
  · have hFull := le_mantissa hNum hDen (by omega)
    exact iff_of_false (by omega) (Nat.not_lt.mpr (le_of_lt_binaryExponent hNum hDen hAbove))

end Quotients

/-- A quotient has a double if it is not too large, with either sign. -/
theorem isSome_ofQuotient? (num : Int) {den : Nat} (hDen : 0 < den) :
    (ofQuotient? num den).isSome ↔ num.natAbs < firstTooLarge * den := by
  unfold ofQuotient? nearest?
  rw [Option.isSome_map]
  by_cases hZero : num.natAbs = 0
  · have hBound : 0 < firstTooLarge * den := Nat.mul_pos (by decide +kernel) hDen
    rw [if_pos hZero, hZero]
    exact iff_of_true rfl hBound
  · rw [if_neg hZero, ← nearestBits_lt_infinityBits_iff (Nat.pos_of_ne_zero hZero) hDen]
    dsimp only
    split_ifs with hBits <;> simp [hBits]

/-- A quotient is rounded to a double just if it is in range. -/
theorem exists_realOfQuotient_iff {num : Int} {den : Nat} (hDen : 0 < den) :
    (∃ x, realOfQuotient num den = .ok x) ↔ num.natAbs < firstTooLarge * den := by
  rw [← isSome_ofQuotient? num hDen]
  unfold realOfQuotient
  cases ofQuotient? num den <;> simp

/-- A quotient that is not negative is given the double nearest to it. -/
theorem isNearest_of_realOfQuotient {num den : Nat} (hDen : 0 < den) {x : Float}
    (h : realOfQuotient num den = .ok x) : IsNearest x (num / den) := by
  unfold realOfQuotient ofQuotient? nearest? at h
  rw [Int.natAbs_natCast] at h
  by_cases hZero : num = 0
  · subst hZero
    cases h
    exact .inl ⟨by simp, rfl⟩
  · rw [if_neg hZero] at h
    dsimp only at h
    split_ifs at h with hBits
    · cases h
      refine .inr ⟨_, isNearestBits_nearestBits (Nat.pos_of_ne_zero hZero) hDen hBits, ?_⟩
      rw [decide_eq_false (by omega)]
      rfl
    · cases h

/-! ## Integers -/

theorem exists_realOfInteger_iff {n : Int} :
    (∃ x, realOfInteger n = .ok x) ↔ n.natAbs < firstTooLarge := by
  have hQuotient := isSome_ofQuotient? n Nat.one_pos
  rw [Nat.mul_one] at hQuotient
  rw [← hQuotient]
  unfold realOfInteger ofInteger?
  cases ofQuotient? n 1 <;> simp

/-- What an integer is rounded to is nearest to it. -/
theorem isNearest_of_realOfInteger {n : Nat} {x : Float} (h : realOfInteger n = .ok x) :
    IsNearest x n := by
  have hQuotient : realOfQuotient n 1 = .ok x := by
    unfold realOfInteger ofInteger? at h
    unfold realOfQuotient
    split at h
    · exact h
    · cases h
  simpa using isNearest_of_realOfQuotient Nat.one_pos hQuotient

theorem realOfInteger_eq_error {n : Int} (h : firstTooLarge ≤ n.natAbs) :
    realOfInteger n = .error .integerTooLarge := by
  cases hReal : realOfInteger n with
  | error error =>
      unfold realOfInteger at hReal
      split at hReal <;> cases hReal
      rfl
  | ok x => exact absurd h (Nat.not_le.mpr (exists_realOfInteger_iff.mp ⟨x, hReal⟩))

end PodGauges.Number
