import Mathlib
import PodGauges.Number.Real
import PodGauges.Proofs.Number.Literal
import PodGauges.Proofs.Number.Range
import PodGauges.Proofs.Text.Cutting

/-! Natural numbers as the kernel prints them, in decimal digits without a sign. They read back as
the integers that they are, and as the doubles nearest to these. -/
namespace PodGauges.Number

open Text

/-- A run of digits without underscores has the values of its digits. -/
theorem digitValues?_eq_some {digit? : Char → Option Nat} {text : List Char} {digits : List Nat}
    (hNil : text ≠ []) (hMark : '_' ∉ text) (h : text.map digit? = digits.map some) :
    digitValues? digit? text = some digits := by
  induction text generalizing digits with
  | nil => exact absurd rfl hNil
  | cons c text ih =>
      obtain ⟨d, digits, rfl, hd, hText⟩ := List.map_eq_cons_iff.mp h.symm
      obtain ⟨-, hRest⟩ := not_or.mp (mt List.mem_cons.mpr hMark)
      cases text with
      | nil =>
          rw [List.map_nil, List.map_eq_nil_iff] at hText
          simp [digitValues?, ← hd, hText]
      | cons e text =>
          rw [digitValues?, ← hd, ih (List.cons_ne_nil _ _) hRest hText.symm]
          · rfl
          · simp
          · rintro _ ⟨rfl, -⟩
            exact hRest (List.mem_cons_self ..)

/-! ## Digits -/

/-- The value of digits is what the library reads them as. -/
theorem valueOf_of_isDigit (text : List Char) :
    valueOf 10 (text.map fun c => c.toNat - '0'.toNat) = Nat.ofDigitChars 10 text 0 := by
  simp [valueOf, List.foldl_map, Nat.ofDigitChars, Nat.mul_comm]

theorem exists_digitChar {c : Char} (h : c.isDigit) : ∃ d < 10, c = Nat.digitChar d := by
  have hRange : 48 ≤ c.toNat ∧ c.toNat ≤ 57 := by
    simpa [Char.isDigit, UInt32.le_iff_toNat_le] using h
  refine ⟨c.toNat - 48, by omega, Char.toNat_inj.mp ?_⟩
  rw [Nat.toNat_digitChar_of_lt_ten (by omega)]
  omega

section Digits

variable {text : List Char} (h : ∀ c ∈ text, c.isDigit)
include h

theorem decimalDigit?_of_isDigit :
    text.map decimalDigit? = (text.map fun c => c.toNat - '0'.toNat).map some := by
  have hDigits : ∀ d < 10, decimalDigit? (Nat.digitChar d) =
      some ((Nat.digitChar d).toNat - '0'.toNat) := by decide +kernel
  rw [List.map_map]
  refine List.map_congr_left fun c hc => ?_
  obtain ⟨d, hd, rfl⟩ := exists_digitChar (h c hc)
  exact hDigits d hd

theorem not_isBlank_of_isDigit {c : Char} (hc : c ∈ text) : ¬ isBlank c := by
  have hDigits : ∀ d < 10, ¬ isBlank (Nat.digitChar d) := by decide +kernel
  obtain ⟨d, hd, rfl⟩ := exists_digitChar (h c hc)
  exact hDigits d hd

theorem trimBy_isLiteralBlank_of_isDigit : trimBy isLiteralBlank text = text :=
  trimBy_eq_self fun _ hc => mt isBlank_of_isLiteralBlank (not_isBlank_of_isDigit h hc)

theorem not_mem_of_isDigit {c : Char} (hc : ¬ c.isDigit) : c ∉ text :=
  fun hMem => hc (h c hMem)

theorem takeSign_of_isDigit : takeSign text = (false, text) := by
  have hNot {sign : Char} {rest : List Char} (hSign : ¬ sign.isDigit) : text ≠ sign :: rest := by
    rintro rfl
    exact hSign (h sign (List.mem_cons_self ..))
  unfold takeSign
  split
  · exact absurd rfl (hNot (by decide))
  · exact absurd rfl (hNot (by decide))
  · rfl

theorem asciiLower_of_isDigit : asciiLower text = text := by
  have hDigits : ∀ d < 10, (Nat.digitChar d).toLower = Nat.digitChar d := by decide +kernel
  refine (List.map_congr_left fun c hc => ?_).trans (List.map_id text)
  obtain ⟨d, hd, rfl⟩ := exists_digitChar (h c hc)
  exact hDigits d hd

/-- Digits in front of which no sign stands are a literal, if there are any and not too many. -/
theorem integer?_of_isDigit (hNil : text ≠ []) (hLength : text.length ≤ maxDecimalDigits) :
    integer? text = some (Nat.ofDigitChars 10 text 0 : Int) := by
  have hDigits : digitValues? decimalDigit? text =
      some (text.map fun c => c.toNat - '0'.toNat) :=
    digitValues?_eq_some hNil (not_mem_of_isDigit h (by decide)) (decimalDigit?_of_isDigit h)
  rw [integer?, trimBy_isLiteralBlank_of_isDigit h, takeSign_of_isDigit h]
  dsimp only
  rw [hDigits]
  dsimp only
  rw [if_pos (by rwa [List.length_map]), valueOf_of_isDigit]
  rfl

end Digits

/-! ## Numbers -/

theorem isDigit_of_mem_toDigits {n : Nat} {c : Char} (h : c ∈ Nat.toDigits 10 n) : c.isDigit :=
  Nat.isDigit_of_mem_toDigits (by decide) (by decide) h

/-- The digits of a number are one word. -/
theorem isWord_toDigits (n : Nat) : IsWord (Nat.toDigits 10 n) :=
  ⟨Nat.toDigits_ne_nil,
    fun _ hc => not_isBlank_of_isDigit (fun _ h => isDigit_of_mem_toDigits h) hc⟩

/-- The values of the digits of a number. -/
def decimalValues (n : Nat) : List Nat := (Nat.toDigits 10 n).map fun c => c.toNat - '0'.toNat

/-- The digits of a number are read one by one. -/
theorem digitValues?_toDigits (n : Nat) :
    digitValues? decimalDigit? (Nat.toDigits 10 n) = some (decimalValues n) :=
  digitValues?_eq_some Nat.toDigits_ne_nil
    (not_mem_of_isDigit (fun _ h => isDigit_of_mem_toDigits h) (by decide))
    (decimalDigit?_of_isDigit fun _ h => isDigit_of_mem_toDigits h)

/-- A number is the value of its digits. -/
theorem valueOf_decimalValues (n : Nat) : valueOf 10 (decimalValues n) = n := by
  rw [decimalValues, valueOf_of_isDigit, Nat.ofDigitChars_ten_toDigits]

/-- A number of not too many digits is the literal of itself. -/
theorem integer?_toDigits {n : Nat} (h : n < 10 ^ maxDecimalDigits) :
    integer? (Nat.toDigits 10 n) = some (n : Int) := by
  have hLength : (Nat.toDigits 10 n).length ≤ maxDecimalDigits :=
    (Nat.length_toDigits_le_iff (by decide) (by decide)).mpr h
  rw [integer?_of_isDigit (fun _ hc => isDigit_of_mem_toDigits hc) Nat.toDigits_ne_nil hLength,
    Nat.ofDigitChars_ten_toDigits]

/-- The counters of the kernel are far from the limit on digits. -/
theorem toNat_lt_of_maxDecimalDigits (n : UInt64) : n.toNat < 10 ^ maxDecimalDigits :=
  calc n.toNat < 2 ^ 64 := n.toNat_lt
    _ ≤ 10 ^ 20 := by decide
    _ ≤ 10 ^ maxDecimalDigits := Nat.pow_le_pow_right (by decide) (by decide)

/-- A number that is written without a point is read without one. -/
theorem decimal?_toDigits (n : Nat) : decimal? (Nat.toDigits 10 n) = some (n, 0) := by
  have hDigit : ∀ c ∈ Nat.toDigits 10 n, c.isDigit := fun _ hc => isDigit_of_mem_toDigits hc
  have hMark {c : Char} (hc : ¬ c.isDigit) : splitFirst? c (Nat.toDigits 10 n) = none :=
    splitFirst?_eq_none (not_mem_of_isDigit hDigit hc)
  rw [decimal?]
  dsimp only
  rw [asciiLower_of_isDigit hDigit, hMark (by decide)]
  dsimp only
  rw [mantissa?, hMark (by decide)]
  dsimp only
  rw [digitValues?_toDigits, Option.map_some, Option.map_some, valueOf_decimalValues]
  rfl

/-- Below the bound on integers the guard against large powers does not act. -/
theorem ofDecimal_of_realOfInteger {n : Nat} {x : Float} (h : realOfInteger n = .ok x) :
    ofDecimal n 0 = x := by
  have hNearest : nearest? n 1 = some x := by
    have hSign : ¬ (n : Int) < 0 := by omega
    cases hReal : nearest? n 1 <;>
      simp [realOfInteger, ofInteger?, ofQuotient?, signed, hReal, hSign] at h ⊢
    exact h
  by_cases hZero : n = 0
  · subst hZero
    cases hNearest
    rfl
  · have hLog : Nat.log2 n < 1024 := by
      have hBound := exists_realOfInteger_iff.mp ⟨x, h⟩
      rw [Int.natAbs_natCast] at hBound
      exact (Nat.log2_lt hZero).mpr (hBound.trans_le (by decide +kernel))
    rw [ofDecimal, if_neg hZero, if_pos (le_refl 0), if_neg (by omega)]
    simpa using congrArg (Option.getD · infinity) hNearest

/-- A number that is not too large for a double reads as the double nearest to it. -/
theorem real?_toDigits {n : Nat} {x : Float} (h : realOfInteger n = .ok x) :
    real? (Nat.toDigits 10 n) = some x := by
  have hDigit : ∀ c ∈ Nat.toDigits 10 n, c.isDigit := fun _ hc => isDigit_of_mem_toDigits hc
  have hName (name : List Char) (hLetter : ∃ c ∈ name, ¬ c.isDigit) : Nat.toDigits 10 n ≠ name := by
    rintro rfl
    obtain ⟨c, hc, hNot⟩ := hLetter
    exact hNot (hDigit c hc)
  rw [real?, trimBy_isLiteralBlank_of_isDigit hDigit, takeSign_of_isDigit hDigit]
  dsimp only
  rw [asciiLower_of_isDigit hDigit,
    if_neg (not_or.mpr ⟨hName _ ⟨'i', by decide⟩, hName _ ⟨'i', by decide⟩⟩),
    if_neg (hName _ ⟨'n', by decide⟩), decimal?_toDigits, Option.map_some,
    ofDecimal_of_realOfInteger h]
  rfl

/-- A counter of the kernel reads as the double nearest to it. -/
theorem exists_real?_toDigits (n : UInt64) :
    ∃ x, IsNearest x n.toNat ∧ real? (Nat.toDigits 10 n.toNat) = some x := by
  have hSmall : (n.toNat : Int).natAbs < firstTooLarge := toNat_lt_firstTooLarge n
  obtain ⟨x, hx⟩ := exists_realOfInteger_iff.mpr hSmall
  exact ⟨x, isNearest_of_realOfInteger hx, real?_toDigits hx⟩

end PodGauges.Number
