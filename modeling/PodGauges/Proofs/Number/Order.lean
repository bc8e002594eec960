import Mathlib
import PodGauges.Number.Binary64

/-! The order of doubles. Apart from what is no number, a double has a place on a line, and is less
than another or equal to it just if its place is. Both zeros are at one place, and no other two
doubles are: so a difference from equal doubles is the same number. -/
namespace PodGauges.Number

open Float.Model Float.Model.UnpackedFloat

/-- A double taken apart into its kind, sign, mantissa and exponent. -/
def parts (x : Float) : UnpackedFloat := x.toModel.unpack

/-- The place of a double on a line. Among finite doubles of one sign the exponent counts before the
mantissa. -/
def rank : UnpackedFloat → ℤ ×ₗ ℤ ×ₗ ℤ
  | .infinity .negative => toLex (-2, toLex (0, 0))
  | .finite .negative mantissa exponent _ => toLex (-1, toLex (-exponent, -mantissa))
  | .zero _ | .notANumber => toLex (0, toLex (0, 0))
  | .finite .positive mantissa exponent _ => toLex (1, toLex (exponent, mantissa))
  | .infinity .positive => toLex (2, toLex (0, 0))

section Compare

variable {u v : UnpackedFloat}

/-- Parts are in order just if they are numbers and their ranks are. -/
theorem compare_eq_lt : u.compare v = some .lt ↔
    u.isNaN = false ∧ v.isNaN = false ∧ rank u < rank v := by
  rcases u with (_ | _) | _ | _ | ⟨_ | _, m, e, _⟩ <;>
    rcases v with (_ | _) | _ | _ | ⟨_ | _, n, f, _⟩ <;>
    simp [UnpackedFloat.compare, UnpackedFloat.isNaN, rank, Prod.Lex.toLex_lt_toLex, compare,
      compareOfLessAndEq, Ordering.then_eq_lt, Ordering.swap_then] <;> omega

/-- Parts are equal just if they are numbers of one rank, as both zeros are. -/
theorem compare_eq_eq : u.compare v = some .eq ↔
    u.isNaN = false ∧ v.isNaN = false ∧ rank u = rank v := by
  rcases u with (_ | _) | _ | _ | ⟨_ | _, m, e, _⟩ <;>
    rcases v with (_ | _) | _ | _ | ⟨_ | _, n, f, _⟩ <;>
    simp [UnpackedFloat.compare, UnpackedFloat.isNaN, rank, compare,
      compareOfLessAndEq, Ordering.then_eq_eq, Ordering.swap_then] <;> omega

/-- Only the zeros share their place. -/
theorem eq_or_zero_of_rank_eq (hu : u.isNaN = false) (hv : v.isNaN = false)
    (h : rank u = rank v) : u = v ∨ ∃ s s', u = .zero s ∧ v = .zero s' := by
  rcases u with (_ | _) | _ | _ | ⟨_ | _, m, e, _⟩ <;>
    rcases v with (_ | _) | _ | _ | ⟨_ | _, n, f, _⟩ <;>
    simp_all [UnpackedFloat.isNaN, rank]

end Compare

/-! ## Comparing doubles -/

section Doubles

variable {x y z : Float}

/-- The order of doubles is that of their ranks. -/
theorem less_iff_rank : x < y ↔
    x.isNaN = false ∧ y.isNaN = false ∧ rank (parts x) < rank (parts y) := by
  have hLess : x < y ↔ (parts x).compare (parts y) = some .lt := by
    change decide (((parts x).compare (parts y) == some .lt) = true) = true ↔ _
    rw [decide_eq_true_iff, beq_iff_eq]
  exact hLess.trans compare_eq_lt

/-- Doubles are equal just if they are numbers of one rank. -/
theorem equal_iff_rank : (x == y) = true ↔
    x.isNaN = false ∧ y.isNaN = false ∧ rank (parts x) = rank (parts y) := by
  have hEqual : (x == y) = true ↔ (parts x).compare (parts y) = some .eq := by
    change ((parts x).compare (parts y) == some .eq) = true ↔ _
    rw [beq_iff_eq]
  exact hEqual.trans compare_eq_eq

theorem not_less_self (x : Float) : ¬ x < x := by
  intro h
  exact lt_irrefl _ (less_iff_rank.mp h).2.2

/-- The order is transitive, also where some of the three might be no number. -/
theorem less_trans (hFirst : x < y) (hSecond : y < z) : x < z := by
  obtain ⟨hx, -, hxy⟩ := less_iff_rank.mp hFirst
  obtain ⟨-, hz, hyz⟩ := less_iff_rank.mp hSecond
  exact less_iff_rank.mpr ⟨hx, hz, hxy.trans hyz⟩

/-- Of two numbers that are not less than each other, neither is greater. -/
theorem equal_of_not_less (hx : x.isNaN = false) (hy : y.isNaN = false) (hxy : ¬ x < y)
    (hyx : ¬ y < x) : (x == y) = true := by
  simp only [less_iff_rank, hx, hy, true_and, not_lt] at hxy hyx
  exact equal_iff_rank.mpr ⟨hx, hy, le_antisymm hyx hxy⟩

/-- Doubles that are one number: the same one, or equal as the zeros are. -/
def IsSame (x y : Float) : Prop := x = y ∨ (x == y) = true

/-- Equal doubles have the same difference from a third. It can be no number. -/
theorem isSame_sub (h : (x == y) = true) (z : Float) : IsSame (z - x) (z - y) := by
  obtain ⟨hx, hy, hRank⟩ := equal_iff_rank.mp h
  have hSub (w : Float) :
      z - w = .ofModel (.pack (UnpackedFloat.sub .binary64 (parts z) (parts w))) := rfl
  have hParts : parts x = parts y ∨ ∃ s s', parts x = .zero s ∧ parts y = .zero s' :=
    eq_or_zero_of_rank_eq hx hy hRank
  rw [hSub, hSub]
  rcases hParts with hParts | ⟨s, s', hs, hs'⟩
  · exact .inl (by rw [hParts])
  · rw [hs, hs']
    cases parts z with
    | zero sign => exact .inr (by cases sign <;> cases s <;> cases s' <;> decide +kernel)
    | _ => exact .inl rfl

end Doubles

end PodGauges.Number
