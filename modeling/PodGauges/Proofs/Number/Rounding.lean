import Mathlib
import PodGauges.Number.Quantity

/-! Rounding of quotients to doubles. The bits that a quotient is given are those of the double
nearest to it, and of two doubles equally near those of the even one. -/
namespace PodGauges.Number

/-! ## Rounding to an integer -/

section Integer

variable {num den : Nat}

theorem div_le_divHalfEven (num den : Nat) : num / den ≤ divHalfEven num den := by
  unfold divHalfEven
  dsimp only
  split_ifs <;> omega

theorem divHalfEven_le (num den : Nat) : divHalfEven num den ≤ num / den + 1 := by
  unfold divHalfEven
  dsimp only
  split_ifs <;> omega

/-- A quotient is rounded to less than an even number if it is more than a half below that. -/
theorem divHalfEven_lt_iff {k : Nat} (hDen : 0 < den) (hEven : k % 2 = 0) :
    divHalfEven num den < k ↔ 2 * num < (2 * k - 1) * den := by
  have hNum : num = num / den * den + num % den := (Nat.div_add_mod' num den).symm
  have hRest : num % den < den := Nat.mod_lt _ hDen
  have hLow := div_le_divHalfEven num den
  have hHigh := divHalfEven_le num den
  rcases Nat.lt_trichotomy (num / den + 1) k with hBelow | hNext | hAbove
  · have hProduct : (2 * (num / den) + 3) * den ≤ (2 * k - 1) * den :=
      Nat.mul_le_mul_right _ (by omega)
    rw [Nat.add_mul, Nat.mul_assoc] at hProduct
    exact iff_of_true (by omega) (by omega)
  · -- Just below an even number the floor is odd, so that a half goes up.
    have hOdd : num / den % 2 ≠ 0 := by omega
    have hFloor : divHalfEven num den < k ↔ 2 * (num % den) < den := by
      unfold divHalfEven
      dsimp only
      split_ifs <;> omega
    have hProduct : (2 * k - 1) * den = 2 * (num / den * den) + den := by
      rw [← hNext, show 2 * (num / den + 1) - 1 = 2 * (num / den) + 1 from rfl, Nat.add_mul,
        Nat.mul_assoc, Nat.one_mul]
    rw [hFloor, hProduct]
    omega
  · have hProduct : (2 * k - 1) * den ≤ 2 * (num / den) * den :=
      Nat.mul_le_mul_right _ (by omega)
    rw [Nat.mul_assoc] at hProduct
    exact iff_of_false (by omega) (by omega)

/-- No integer is nearer to a quotient than the one that it is rounded to. If another one is as
near, that one is even. -/
theorem divHalfEven_nearest (hDen : 0 < den) (k : Nat) :
    ((divHalfEven num den * den : Nat) - (num : Int)).natAbs ≤
        ((k * den : Nat) - (num : Int)).natAbs ∧
      (((k * den : Nat) - (num : Int)).natAbs =
          ((divHalfEven num den * den : Nat) - (num : Int)).natAbs →
        k ≠ divHalfEven num den → divHalfEven num den % 2 = 0) := by
  have hNum : num = num / den * den + num % den := (Nat.div_add_mod' num den).symm
  have hRest : num % den < den := Nat.mod_lt _ hDen
  have hNext : (num / den + 1) * den = num / den * den + den := Nat.succ_mul _ _
  -- Where the other integer stands decides how far it is at least.
  have hPlace : k < num / den ∧ k * den + den ≤ num / den * den ∨
      k = num / den ∧ k * den = num / den * den ∨
      k = num / den + 1 ∧ k * den = num / den * den + den ∨
      num / den + 1 < k ∧ num / den * den + 2 * den ≤ k * den := by
    rcases Nat.lt_trichotomy k (num / den) with h | h | h
    · exact .inl ⟨h, Nat.succ_mul k den ▸ Nat.mul_le_mul_right den h⟩
    · exact .inr (.inl ⟨h, by rw [h]⟩)
    · rcases Nat.lt_or_ge (num / den + 1) k with h | h
      · have hProduct := Nat.mul_le_mul_right den h
        rw [Nat.succ_mul, hNext] at hProduct
        exact .inr (.inr (.inr ⟨h, by omega⟩))
      · have hEq : k = num / den + 1 := by omega
        exact .inr (.inr (.inl ⟨hEq, by rw [hEq, hNext]⟩))
  unfold divHalfEven
  dsimp only
  split_ifs <;> constructor <;> omega

/-- The distance of an integer to a quotient, over the denominator. -/
theorem abs_sub_div (k num : Nat) (hDen : 0 < den) :
    |(k : ℚ) - num / den| = (((k * den : Nat) - (num : Int)).natAbs : ℚ) / den := by
  have hCast : (0 : ℚ) < den := by exact_mod_cast hDen
  rw [eq_div_iff hCast.ne', Nat.cast_natAbs, Int.cast_abs]
  nth_rewrite 2 [← abs_of_pos hCast]
  rw [← abs_mul]
  congr 1
  push_cast
  field_simp

end Integer

/-! ## Powers of two -/

section Powers

variable {num den : Nat}

theorem two_zpow_pos (e : Int) : (0 : ℚ) < 2 ^ e := zpow_pos two_pos e

/-- A power of two as the quotient of the two shifts that stand for it. -/
theorem zpow_eq_div (e : Int) : (2 : ℚ) ^ e = 2 ^ e.toNat / 2 ^ (-e).toNat := by
  rw [← zpow_natCast, ← zpow_natCast, ← zpow_sub₀ two_ne_zero]
  congr 1
  omega

/-- Numerator and denominator shifted apart make a quotient of another scale. -/
theorem shifted_div (num den : Nat) (e : Int) :
    ((num <<< (-e).toNat : Nat) : ℚ) / (den <<< e.toNat : Nat) = num / den / 2 ^ e := by
  rw [zpow_eq_div, Nat.shiftLeft_eq, Nat.shiftLeft_eq]
  push_cast
  field_simp

/-- The exponent is that of the greatest power of two that the quotient reaches. -/
theorem binaryExponent_spec (hNum : 0 < num) (hDen : 0 < den) :
    (2 : ℚ) ^ binaryExponent num den ≤ num / den ∧
      (num / den : ℚ) < 2 ^ (binaryExponent num den + 1) := by
  have hDenCast : (0 : ℚ) < den := by exact_mod_cast hDen
  have hNumLow : (2 : ℚ) ^ (Nat.log2 num : Int) ≤ num := by
    exact_mod_cast Nat.log2_self_le hNum.ne'
  have hNumHigh : (num : ℚ) < 2 ^ ((Nat.log2 num : Int) + 1) := by
    exact_mod_cast Nat.lt_log2_self
  have hDenLow : (2 : ℚ) ^ (Nat.log2 den : Int) ≤ den := by
    exact_mod_cast Nat.log2_self_le hDen.ne'
  have hDenHigh : (den : ℚ) < 2 ^ ((Nat.log2 den : Int) + 1) := by
    exact_mod_cast Nat.lt_log2_self
  -- The lengths leave two exponents, and the shifted numbers are compared to choose.
  have hCompare (e : Int) : den <<< e.toNat ≤ num <<< (-e).toNat ↔ (2 : ℚ) ^ e ≤ num / den := by
    have hShifted : (0 : ℚ) < (den <<< e.toNat : Nat) := by
      rw [Nat.shiftLeft_eq]
      positivity
    rw [← one_le_div (two_zpow_pos e), ← shifted_div, one_le_div hShifted]
    exact Nat.cast_le.symm
  unfold binaryExponent
  dsimp only
  split_ifs with h
  · refine ⟨(hCompare _).mp h, (div_lt_iff₀ hDenCast).mpr ?_⟩
    calc (num : ℚ) < 2 ^ ((Nat.log2 num : Int) + 1) := hNumHigh
      _ = 2 ^ ((Nat.log2 num : Int) - Nat.log2 den + 1) * 2 ^ (Nat.log2 den : Int) := by
          rw [← zpow_add₀ two_ne_zero]
          congr 1
          omega
      _ ≤ 2 ^ ((Nat.log2 num : Int) - Nat.log2 den + 1) * den :=
          mul_le_mul_of_nonneg_left hDenLow (two_zpow_pos _).le
  · refine ⟨(le_div_iff₀ hDenCast).mpr ?_, by simpa using mt (hCompare _).mpr h⟩
    calc (2 : ℚ) ^ ((Nat.log2 num : Int) - Nat.log2 den - 1) * den
        ≤ 2 ^ ((Nat.log2 num : Int) - Nat.log2 den - 1) * 2 ^ ((Nat.log2 den : Int) + 1) :=
          mul_le_mul_of_nonneg_left hDenHigh.le (two_zpow_pos _).le
      _ = 2 ^ (Nat.log2 num : Int) := by
          rw [← zpow_add₀ two_ne_zero]
          congr 1
          omega
      _ ≤ num := hNumLow

end Powers

/-! ## Doubles as numbers -/

/-- The number that the bits of a finite double without a sign stand for. -/
def bitsValue (bits : Nat) : ℚ :=
  if bits < 2 ^ 52 then bits * 2 ^ (-1074 : Int)
  else (2 ^ 52 + bits % 2 ^ 52 : Nat) * 2 ^ ((bits / 2 ^ 52 : Nat) - 1075 : Int)

/-- The bits of the finite double without a sign that is nearest to a number. They are even if
another one is as near. -/
structure IsNearestBits (bits : Nat) (r : ℚ) : Prop where
  finite : bits < infinityBits
  nearest : ∀ other < infinityBits, |bitsValue bits - r| ≤ |bitsValue other - r|
  even : ∀ other < infinityBits, |bitsValue other - r| = |bitsValue bits - r| →
    bitsValue other ≠ bitsValue bits → bits % 2 = 0

/-- The double nearest to a number that is not negative. -/
def IsNearest (x : Float) (r : ℚ) : Prop :=
  r = 0 ∧ x = 0.0 ∨ ∃ bits, IsNearestBits bits r ∧ x = Float.ofBits (UInt64.ofNat bits)

/-- Exponent and mantissa added up stand for the mantissa at the exponent. A mantissa of 53 bits
that is rounded up to the next power of two carries over. -/
theorem bitsValue_add {k m : Nat} (hHigh : m ≤ 2 ^ 53) (hLow : k = 0 ∨ 2 ^ 52 ≤ m) :
    bitsValue (k * 2 ^ 52 + m) = m * 2 ^ (k - 1074 : Int) := by
  unfold bitsValue
  rcases Nat.lt_or_ge m (2 ^ 52) with hSmall | hLarge
  · obtain rfl : k = 0 := hLow.resolve_right (Nat.not_le.mpr hSmall)
    rw [if_pos (by omega)]
    simp
  · rw [if_neg (by omega)]
    rcases Nat.lt_or_ge m (2 ^ 53) with hNormal | hCarry
    · rw [show 2 ^ 52 + (k * 2 ^ 52 + m) % 2 ^ 52 = m by omega,
        show (k * 2 ^ 52 + m) / 2 ^ 52 = k + 1 by omega]
      congr 2
      push_cast
      ring
    · obtain rfl : m = 2 ^ 53 := by omega
      rw [show 2 ^ 52 + (k * 2 ^ 52 + 2 ^ 53) % 2 ^ 52 = 2 ^ 52 by omega,
        show (k * 2 ^ 52 + 2 ^ 53) / 2 ^ 52 = k + 2 by omega,
        show ((k + 2 : Nat) : Int) - 1075 = (k - 1074 : Int) + 1 by push_cast; ring,
        zpow_add_one₀ two_ne_zero]
      push_cast
      ring

/-- Every finite double is an integer of 53 bits at some exponent. -/
theorem exists_bitsValue_eq (bits : Nat) :
    ∃ k m : Nat, m < 2 ^ 53 ∧ bitsValue bits = m * 2 ^ (k - 1074 : Int) := by
  unfold bitsValue
  split_ifs with h
  · exact ⟨0, bits, by omega, by simp⟩
  · refine ⟨bits / 2 ^ 52 - 1, 2 ^ 52 + bits % 2 ^ 52, by omega, ?_⟩
    congr 2
    omega

/-! ## The nearest double -/

section Nearest

variable {num den : Nat} (hNum : 0 < num) (hDen : 0 < den)

/-- The exponent of the last place that a quotient has as a double. -/
def lastPlace (num den : Nat) : Int := max (binaryExponent num den - 52) (-1074)

/-- A quotient rounded to an integer, in units of its last place. -/
def mantissa (num den : Nat) : Nat :=
  divHalfEven (num <<< (-lastPlace num den).toNat) (den <<< (lastPlace num den).toNat)

/-- The bits are those of the exponent with the mantissa added, so that a mantissa that is rounded
up carries over into the exponent. -/
theorem nearestBits_eq (num den : Nat) :
    nearestBits num den = (lastPlace num den + 1074).toNat * 2 ^ 52 + mantissa num den := by
  unfold nearestBits
  dsimp only
  rw [Nat.shiftLeft_eq]
  rfl

include hDen in
theorem shifted_pos (e : Int) : 0 < den <<< e.toNat := by
  rw [Nat.shiftLeft_eq]
  positivity

include hDen in
/-- No integer is nearer to the quotient at its last place than the mantissa. -/
theorem mantissa_nearest (num k : Nat) :
    |(mantissa num den : ℚ) - num / den / 2 ^ lastPlace num den| ≤
        |(k : ℚ) - num / den / 2 ^ lastPlace num den| ∧
      (|(k : ℚ) - num / den / 2 ^ lastPlace num den| =
          |(mantissa num den : ℚ) - num / den / 2 ^ lastPlace num den| →
        k ≠ mantissa num den → mantissa num den % 2 = 0) := by
  have hShifted : 0 < den <<< (lastPlace num den).toNat := shifted_pos hDen _
  have hCast : (0 : ℚ) < (den <<< (lastPlace num den).toNat : Nat) := by exact_mod_cast hShifted
  obtain ⟨hNearest, hEven⟩ :=
    @divHalfEven_nearest (num <<< (-lastPlace num den).toNat) _ hShifted k
  rw [← shifted_div, abs_sub_div _ _ hShifted, abs_sub_div _ _ hShifted,
    div_le_div_iff_of_pos_right hCast, div_left_inj' hCast.ne']
  exact_mod_cast And.intro hNearest hEven

include hNum hDen

/-- In units of the last place a quotient has at most as many bits as a mantissa. -/
theorem scaled_lt : (num / den : ℚ) / 2 ^ lastPlace num den < 2 ^ 53 := by
  rw [div_lt_iff₀ (two_zpow_pos _)]
  calc (num / den : ℚ) < 2 ^ (binaryExponent num den + 1) := (binaryExponent_spec hNum hDen).2
    _ ≤ 2 ^ (53 + lastPlace num den) := zpow_le_zpow_right₀ one_le_two (by unfold lastPlace; omega)
    _ = 2 ^ 53 * 2 ^ lastPlace num den := by
        rw [zpow_add₀ two_ne_zero]
        rfl

/-- Above the smallest exponent a quotient has all 53 bits. -/
theorem le_scaled (h : -1074 < lastPlace num den) :
    2 ^ 52 ≤ (num / den : ℚ) / 2 ^ lastPlace num den := by
  rw [le_div_iff₀ (two_zpow_pos _)]
  calc (2 : ℚ) ^ 52 * 2 ^ lastPlace num den = 2 ^ (52 + lastPlace num den) := by
        rw [zpow_add₀ two_ne_zero]
        rfl
    _ = 2 ^ binaryExponent num den := by
        congr 1
        unfold lastPlace at *
        omega
    _ ≤ num / den := (binaryExponent_spec hNum hDen).1

/-- The mantissa may be rounded up to the next power of two. -/
theorem mantissa_le : mantissa num den ≤ 2 ^ 53 := by
  have hScaled := scaled_lt hNum hDen
  rw [← shifted_div, div_lt_iff₀ (by exact_mod_cast shifted_pos hDen _)] at hScaled
  refine Nat.le_trans (divHalfEven_le ..) ((Nat.div_lt_iff_lt_mul (shifted_pos hDen _)).mpr ?_)
  exact_mod_cast hScaled

/-- Above the least exponent a mantissa has all of its bits. -/
theorem le_mantissa (h : -1074 < lastPlace num den) : 2 ^ 52 ≤ mantissa num den := by
  have hScaled := le_scaled hNum hDen h
  rw [← shifted_div, le_div_iff₀ (by exact_mod_cast shifted_pos hDen _)] at hScaled
  refine Nat.le_trans ((Nat.le_div_iff_mul_le (shifted_pos hDen _)).mpr ?_)
    (div_le_divHalfEven ..)
  exact_mod_cast hScaled

/-- The bits of a quotient stand for its mantissa at its last place. -/
theorem bitsValue_nearestBits :
    bitsValue (nearestBits num den) = mantissa num den * 2 ^ lastPlace num den := by
  have hPlace : -1074 ≤ lastPlace num den := le_max_right ..
  rw [nearestBits_eq, bitsValue_add (mantissa_le hNum hDen)]
  · congr 2
    omega
  · rcases hPlace.eq_or_lt with h | h
    · exact .inl (by omega)
    · exact .inr (le_mantissa hNum hDen h)

omit hNum hDen in
/-- A distance to the quotient is one in units of its last place. -/
theorem abs_units (num den : Nat) (y : ℚ) : |y * 2 ^ lastPlace num den - num / den| =
    |y - num / den / 2 ^ lastPlace num den| * 2 ^ lastPlace num den := by
  have hUnit : (0 : ℚ) < 2 ^ lastPlace num den := two_zpow_pos _
  rw [← abs_of_pos hUnit, ← abs_mul, abs_of_pos hUnit]
  congr 1
  field_simp

omit hNum hDen in
/-- A double of 53 bits below the last place is less than any that has all its bits there. -/
theorem units_lt {k m : Nat} (hm : m < 2 ^ 53) (hFine : (k - 1074 : Int) < lastPlace num den) :
    (m * 2 ^ (k - 1074 : Int) : ℚ) / 2 ^ lastPlace num den < 2 ^ 52 := by
  have hCast : (m : ℚ) < 2 ^ 53 := by exact_mod_cast hm
  rw [div_lt_iff₀ (two_zpow_pos _)]
  calc (m : ℚ) * 2 ^ (k - 1074 : Int) < 2 ^ 53 * 2 ^ (k - 1074 : Int) :=
        mul_lt_mul_of_pos_right hCast (two_zpow_pos _)
    _ ≤ 2 ^ 53 * 2 ^ (lastPlace num den - 1) :=
        mul_le_mul_of_nonneg_left (zpow_le_zpow_right₀ one_le_two (by omega)) (by positivity)
    _ = 2 ^ 52 * 2 ^ lastPlace num den := by
        rw [zpow_sub_one₀ two_ne_zero]
        ring

/-- Another double is either an integer in units of the last place or farther from the quotient
than the one that it is given. -/
theorem exists_units_or_farther (other : Nat) :
    (∃ j : Nat, bitsValue other = j * 2 ^ lastPlace num den) ∨
      |bitsValue (nearestBits num den) - num / den| < |bitsValue other - num / den| := by
  obtain ⟨k, m, hm, hValue⟩ := exists_bitsValue_eq other
  rcases le_or_gt (lastPlace num den) (k - 1074) with hCoarse | hFine
  · refine .inl ⟨m * 2 ^ ((k - 1074 : Int) - lastPlace num den).toNat, ?_⟩
    rw [hValue]
    push_cast
    rw [mul_assoc, ← zpow_natCast, ← zpow_add₀ two_ne_zero]
    congr 2
    omega
  · right
    have hUnit : (0 : ℚ) < 2 ^ lastPlace num den := two_zpow_pos _
    have hFull := le_scaled hNum hDen (by omega)
    have hBelow := units_lt hm hFine
    have hMantissa := (mantissa_nearest hDen num (2 ^ 52)).1
    push_cast at hMantissa
    rw [← hValue] at hBelow
    rw [bitsValue_nearestBits hNum hDen, abs_units,
      ← div_mul_cancel₀ (bitsValue other) hUnit.ne', abs_units]
    refine mul_lt_mul_of_pos_right (hMantissa.trans_lt ?_) hUnit
    rw [abs_of_nonpos (by linarith), abs_of_neg (by linarith)]
    linarith

/-- A quotient within the doubles is given the bits of the double nearest to it. -/
theorem isNearestBits_nearestBits (h : nearestBits num den < infinityBits) :
    IsNearestBits (nearestBits num den) (num / den) := by
  have hUnit : (0 : ℚ) < 2 ^ lastPlace num den := two_zpow_pos _
  refine ⟨h, fun other _ => ?_, fun other _ hEqual hDifferent => ?_⟩
  · rcases exists_units_or_farther hNum hDen other with ⟨j, hj⟩ | hLess
    · rw [bitsValue_nearestBits hNum hDen, hj, abs_units, abs_units]
      exact mul_le_mul_of_nonneg_right (mantissa_nearest hDen num j).1 hUnit.le
    · exact hLess.le
  · rcases exists_units_or_farther hNum hDen other with ⟨j, hj⟩ | hLess
    · rw [bitsValue_nearestBits hNum hDen, hj] at hEqual hDifferent
      rw [abs_units, abs_units, mul_left_inj' hUnit.ne'] at hEqual
      have hEven := (mantissa_nearest hDen num j).2 hEqual fun hSame => hDifferent (by rw [hSame])
      rw [nearestBits_eq]
      omega
    · exact absurd hEqual hLess.ne'

end Nearest

end PodGauges.Number
