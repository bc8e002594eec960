import Mathlib
import PodGauges.Proofs.Number.Decimal

/-! Numbers of base sixteen at a fixed width, as the kernel prints them. They read back as literals,
in capitals or in small letters. -/
namespace PodGauges.Number

open Text

/-- The digits of a number at a width, the most significant first. -/
def hexValues : Nat → Nat → List Nat
  | 0, _ => []
  | width + 1, n => hexValues width (n / 16) ++ [n % 16]

def hexCapital (d : Nat) : Char := (Nat.digitChar d).toUpper

def hexText (width n : Nat) : List Char := (hexValues width n).map hexCapital

/-- A text that is a given one once all its letters are made capitals. -/
def InEitherCase (text capitals : List Char) : Prop := text.map Char.toUpper = capitals

instance (text capitals : List Char) : Decidable (InEitherCase text capitals) :=
  inferInstanceAs (Decidable (text.map Char.toUpper = capitals))

/-- The characters that are digits of base sixteen, in either case. -/
def hexChars : List Char :=
  (List.range 16).map hexCapital ++ (List.range 16).map Nat.digitChar

/-! ## Digits -/

theorem length_hexValues (width n : Nat) : (hexValues width n).length = width := by
  induction width generalizing n with
  | zero => rfl
  | succ width ih => simp [hexValues, ih]

theorem lt_of_mem_hexValues {width n d : Nat} (h : d ∈ hexValues width n) : d < 16 := by
  induction width generalizing n with
  | zero => exact absurd h List.not_mem_nil
  | succ width ih =>
      rcases List.mem_append.mp h with h | h
      · exact ih h
      · rw [List.mem_singleton.mp h]
        exact Nat.mod_lt _ (by omega)

theorem valueOf_append (base : Nat) (digits : List Nat) (d : Nat) :
    valueOf base (digits ++ [d]) = valueOf base digits * base + d := by
  simp [valueOf]

/-- Digits spell less than the power of their base at their number. -/
theorem valueOf_lt {base : Nat} {digits : List Nat} (h : ∀ d ∈ digits, d < base) :
    valueOf base digits < base ^ digits.length := by
  have hFold (n : Nat) :
      digits.foldl (fun n d => n * base + d) n < (n + 1) * base ^ digits.length := by
    induction digits generalizing n with
    | nil => simp
    | cons d digits ih =>
        have hd : n * base + d + 1 ≤ (n + 1) * base := by
          have hLt := h d (List.mem_cons_self ..)
          rw [Nat.succ_mul]
          omega
        calc (d :: digits).foldl (fun n d => n * base + d) n
            < (n * base + d + 1) * base ^ digits.length :=
              ih (fun e he => h e (List.mem_cons_of_mem _ he)) _
          _ ≤ (n + 1) * base * base ^ digits.length := Nat.mul_le_mul_right _ hd
          _ = (n + 1) * base ^ (digits.length + 1) := by
              rw [Nat.pow_succ', Nat.mul_assoc]
  simpa [valueOf] using hFold 0

theorem hexDigit?_lt {c : Char} {d : Nat} (h : hexDigit? c = some d) : d < 16 := by
  unfold hexDigit? at h
  split at h
  · next hc =>
      rw [Bool.and_eq_true, decide_eq_true_eq, decide_eq_true_eq] at hc
      have hLetter : 97 ≤ c.toNat ∧ c.toNat ≤ 102 := hc
      cases h
      have hValue : 'a'.toNat = 97 := rfl
      omega
  · split at h
    · next hc =>
        rw [Bool.and_eq_true, decide_eq_true_eq, decide_eq_true_eq] at hc
        have hLetter : 65 ≤ c.toNat ∧ c.toNat ≤ 70 := hc
        cases h
        have hValue : 'A'.toNat = 65 := rfl
        omega
    · obtain ⟨base, hBase, rfl⟩ := Option.map_eq_some_iff.mp h
      have hBlock := List.find?_some hBase
      simp only [Bool.and_eq_true, decide_eq_true_eq] at hBlock
      omega

/-- A number that fits into the width is the value of its digits. -/
theorem valueOf_hexValues {width n : Nat} (h : n < 16 ^ width) :
    valueOf 16 (hexValues width n) = n := by
  induction width generalizing n with
  | zero =>
      have hZero : n = 0 := by simpa using h
      rw [hZero]
      rfl
  | succ width ih =>
      rw [hexValues, valueOf_append, ih (by rw [Nat.pow_succ] at h; omega)]
      exact Nat.div_add_mod' n 16

/-- Numbers that fit into a width are told apart by their digits. -/
theorem hexValues_inj {width m n : Nat} (hm : m < 16 ^ width) (hn : n < 16 ^ width) :
    hexValues width m = hexValues width n ↔ m = n := by
  refine ⟨fun h => ?_, fun h => h ▸ rfl⟩
  rw [← valueOf_hexValues hm, h, valueOf_hexValues hn]

theorem length_hexText (width n : Nat) : (hexText width n).length = width := by
  rw [hexText, List.length_map, length_hexValues]

/-! ## Reading -/

/-- A letter is made a capital from itself or from the small letter that belongs to it. -/
theorem eq_or_eq_toLower_of_toUpper {c capital : Char} (h : c.toUpper = capital) :
    c = capital ∨ c = capital.toLower := by
  subst h
  by_cases hLower : 'a'.val ≤ c.val ∧ c.val ≤ 'z'.val
  · have hUpper : c.toUpper.val = c.val + ('A'.val - 'a'.val) := by
      unfold Char.toUpper
      rw [dif_pos hLower]
    have hCapital : c.toUpper.val ≥ 'A'.val ∧ c.toUpper.val ≤ 'Z'.val := by
      rw [hUpper]
      grind
    refine .inr (Char.ext ?_)
    unfold Char.toLower
    rw [dif_pos hCapital]
    change c.val = c.toUpper.val + ('a'.val - 'A'.val)
    rw [hUpper, UInt32.add_assoc]
    exact (UInt32.add_zero c.val).symm
  · unfold Char.toUpper
    rw [dif_neg hLower]
    exact .inl rfl

theorem mem_hexChars_of_toUpper {c : Char} {d : Nat} (hd : d < 16)
    (h : c.toUpper = hexCapital d) : c ∈ hexChars := by
  have hChars : ∀ d < 16, hexCapital d ∈ hexChars ∧ (hexCapital d).toLower ∈ hexChars := by
    decide +kernel
  rcases eq_or_eq_toLower_of_toUpper h with rfl | rfl
  · exact (hChars d hd).1
  · exact (hChars d hd).2

/-- A digit has the same value in either case. -/
theorem hexDigit?_of_toUpper {c : Char} {d : Nat} (hd : d < 16) (h : c.toUpper = hexCapital d) :
    hexDigit? c = some d := by
  have hDigits : ∀ d < 16, hexDigit? (hexCapital d) = some d ∧
      hexDigit? (hexCapital d).toLower = some d := by decide +kernel
  rcases eq_or_eq_toLower_of_toUpper h with rfl | rfl
  · exact (hDigits d hd).1
  · exact (hDigits d hd).2

/-- The characters of a text have the values of the digits that it spells. -/
theorem map_hexDigit? {text : List Char} {digits : List Nat} (hDigits : ∀ d ∈ digits, d < 16)
    (h : InEitherCase text (digits.map hexCapital)) : text.map hexDigit? = digits.map some := by
  induction digits generalizing text with
  | nil => rw [List.map_eq_nil_iff.mp h, List.map_nil, List.map_nil]
  | cons d digits ih =>
      obtain ⟨c, text, rfl, hc, hText⟩ := List.map_eq_cons_iff.mp h
      rw [List.map_cons, List.map_cons, hexDigit?_of_toUpper (hDigits d (List.mem_cons_self ..)) hc,
        ih (fun e he => hDigits e (List.mem_cons_of_mem _ he)) hText]

/-- Digits are known by how they are written. -/
theorem map_hexCapital_inj {digits others : List Nat} (hDigits : ∀ d ∈ digits, d < 16)
    (hOthers : ∀ d ∈ others, d < 16) :
    digits.map hexCapital = others.map hexCapital ↔ digits = others := by
  have hRead (ds : List Nat) (h : ∀ d ∈ ds, d < 16) :
      (ds.map hexCapital).map hexDigit? = ds.map some := by
    refine map_hexDigit? h ?_
    rw [InEitherCase, List.map_map]
    refine List.map_congr_left fun d hd => ?_
    have hCapital : ∀ d < 16, (hexCapital d).toUpper = hexCapital d := by decide +kernel
    exact hCapital d (h d hd)
  refine ⟨fun h => ?_, fun h => h ▸ rfl⟩
  have hSome : digits.map some = others.map some := by
    rw [← hRead digits hDigits, h, hRead others hOthers]
  exact (List.map_inj_right fun _ _ => Option.some.inj).mp hSome

/-- Whatever the case, all characters are digits. -/
theorem InEitherCase.mem_hexChars {text : List Char} {digits : List Nat}
    (hDigits : ∀ d ∈ digits, d < 16) (h : InEitherCase text (digits.map hexCapital)) {c : Char}
    (hc : c ∈ text) : c ∈ hexChars := by
  have hUpper : c.toUpper ∈ digits.map hexCapital := h ▸ List.mem_map_of_mem hc
  obtain ⟨d, hd, hCapital⟩ := List.mem_map.mp hUpper
  exact mem_hexChars_of_toUpper (hDigits d hd) hCapital.symm

theorem InEitherCase.length_eq {text capitals : List Char} (h : InEitherCase text capitals) :
    text.length = capitals.length := by
  rw [← h, List.length_map]

theorem not_isBlank_of_mem_hexChars {c : Char} (h : c ∈ hexChars) : ¬ isBlank c := by
  have hAll : hexChars.all (!isBlank ·) := by decide +kernel
  simpa using List.all_eq_true.mp hAll c h

/-- A number with at least one digit is a word. -/
theorem InEitherCase.isWord {text : List Char} {width n : Nat}
    (h : InEitherCase text (hexText (width + 1) n)) : IsWord text where
  ne_nil := by
    rintro rfl
    exact absurd h.length_eq (by simp [length_hexText])
  not_blank _ hc :=
    not_isBlank_of_mem_hexChars (h.mem_hexChars (fun _ hd => lt_of_mem_hexValues hd) hc)

/-- Digits are read back from either case. -/
theorem digitValues?_of_toUpper {text : List Char} {digits : List Nat}
    (hDigits : ∀ d ∈ digits, d < 16) (hNil : digits ≠ [])
    (h : InEitherCase text (digits.map hexCapital)) :
    digitValues? hexDigit? text = some digits := by
  have hText : text ≠ [] := by
    rintro rfl
    exact hNil (List.map_eq_nil_iff.mp h.symm)
  have hMark : '_' ∉ text := fun hc => absurd (h.mem_hexChars hDigits hc) (by decide)
  exact digitValues?_eq_some hText hMark (map_hexDigit? hDigits h)

section Literal

variable {text : List Char} (h : ∀ c ∈ text, c ∈ hexChars)

include h

theorem takeSign_of_hexChars : takeSign text = (false, text) := by
  unfold takeSign
  split
  · exact absurd (h '-' (List.mem_cons_self ..)) (by decide)
  · exact absurd (h '+' (List.mem_cons_self ..)) (by decide)
  · rfl

/-- No digit is the second character of a base mark. -/
theorem dropHexMark_of_hexChars : dropHexMark text = text := by
  unfold dropHexMark
  split
  · next z x s =>
      have hMark : ¬ (x = 'x' ∨ x = 'X') := by
        rintro (rfl | rfl)
        · exact absurd (h 'x' (by simp)) (by decide)
        · exact absurd (h 'X' (by simp)) (by decide)
      rw [if_neg (by simp [not_or.mp hMark])]
  · rfl

end Literal

/-- A number at a width that holds it is the literal of itself. -/
theorem hexInteger?_of_inEitherCase {text : List Char} {width n : Nat}
    (hn : n < 16 ^ (width + 1)) (h : InEitherCase text (hexText (width + 1) n)) :
    hexInteger? text = some (n : Int) := by
  have hChars : ∀ c ∈ text, c ∈ hexChars := fun _ hc =>
    h.mem_hexChars (fun _ hd => lt_of_mem_hexValues hd) hc
  have hTrim : trimBy isLiteralBlank text = text :=
    trimBy_eq_self fun c hc =>
      mt isBlank_of_isLiteralBlank (not_isBlank_of_mem_hexChars (hChars c hc))
  have hSign : takeSign text = (false, text) := takeSign_of_hexChars hChars
  have hMark : dropHexMark text = text := dropHexMark_of_hexChars hChars
  have hValues : digitValues? hexDigit? text = some (hexValues (width + 1) n) :=
    digitValues?_of_toUpper (fun d hd => lt_of_mem_hexValues hd) (by simp [hexValues]) h
  rw [hexInteger?, hTrim, hSign]
  simp only [hMark, hValues, Option.map_some, valueOf_hexValues hn]
  rfl

end PodGauges.Number
