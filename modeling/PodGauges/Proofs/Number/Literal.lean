import PodGauges.Number.Integer
import PodGauges.Proofs.Text.Cutting

/-! An integer literal is a single word. White space may stand around it and nowhere in it, so that
the literals of a text are among its words. What a literal denotes is told by its digits and its
sign. -/
namespace PodGauges.Number

open Text

theorem isBlank_of_isLiteralBlank {c : Char} (h : isLiteralBlank c) : isBlank c := by
  rcases Bool.or_eq_true_iff.mp h with hAscii | hBeyond
  · rcases Bool.or_eq_true_iff.mp hAscii with hSpace | hControl
    · rw [eq_of_beq hSpace]
      decide
    · have hRange : 9 ≤ c.toNat ∧ c.toNat ≤ 13 := by
        simpa [Char.le_def, UInt32.le_iff_toNat_le] using hControl
      have hTable : blankRanges.contains c.toNat = (9 ≤ c.toNat && c.toNat ≤ 13 ||
          Ranges.contains blankRanges.tail c.toNat) := rfl
      simp [isBlank, hTable, hRange]
  · exact (Bool.and_eq_true_iff.mp hBeyond).2

/-- No digit of any script is white space. -/
theorem not_isBlank_of_decimalDigit? {c : Char} {d : Nat} (h : decimalDigit? c = some d) :
    ¬ isBlank c := by
  have hApart : ∀ range ∈ blankRanges, ∀ start ∈ digitZeros,
      range.2 < start ∨ start + 10 ≤ range.1 := by decide
  intro hBlank
  obtain ⟨start, hStart, -⟩ := Option.map_eq_some_iff.mp h
  obtain ⟨range, hRange, hIn⟩ := List.any_eq_true.mp hBlank
  have hDigit := List.find?_some hStart
  have := hApart range hRange start (List.mem_of_find?_eq_some hStart)
  simp only [Bool.and_eq_true, decide_eq_true_eq] at hDigit hIn
  omega

/-- A run of digits is made of these and of underscores. -/
theorem exists_of_digitValues? {digit? : Char → Option Nat} {s : List Char} {digits : List Nat}
    (h : digitValues? digit? s = some digits) :
    s ≠ [] ∧ ∀ c ∈ s, c = '_' ∨ ∃ d, digit? c = some d := by
  induction s using digitValues?.induct generalizing digits with
  | case1 => cases h
  | case2 c =>
      obtain ⟨d, hDigit, -⟩ := Option.map_eq_some_iff.mp h
      exact ⟨List.cons_ne_nil _ _, by simpa using .inr ⟨d, hDigit⟩⟩
  | case3 c s ih =>
      obtain ⟨d, hDigit, hRest⟩ := Option.bind_eq_some_iff.mp h
      obtain ⟨rest, hRest, -⟩ := Option.map_eq_some_iff.mp hRest
      refine ⟨List.cons_ne_nil _ _, List.forall_mem_cons.mpr ⟨.inr ⟨d, hDigit⟩, ?_⟩⟩
      exact List.forall_mem_cons.mpr ⟨.inl rfl, (ih hRest).2⟩
  | case4 c s hSingle hMark ih =>
      rw [digitValues?.eq_4 _ _ _ hSingle hMark] at h
      obtain ⟨d, hDigit, hRest⟩ := Option.bind_eq_some_iff.mp h
      obtain ⟨rest, hRest, -⟩ := Option.map_eq_some_iff.mp hRest
      exact ⟨List.cons_ne_nil _ _, List.forall_mem_cons.mpr ⟨.inr ⟨d, hDigit⟩, (ih hRest).2⟩⟩

/-- There is one sign at most, and what follows it is the rest. -/
theorem takeSign_cases (s : List Char) :
    s = (takeSign s).2 ∨ s = '-' :: (takeSign s).2 ∨ s = '+' :: (takeSign s).2 := by
  unfold takeSign
  split
  · exact .inr (.inl rfl)
  · exact .inr (.inr rfl)
  · exact .inl rfl

/-- Without the white space around it a literal is a word. -/
theorem isWord_of_integer? {s : List Char} {n : Int} (h : integer? s = some n) :
    IsWord (trimBy isLiteralBlank s) := by
  unfold integer? at h
  dsimp only at h
  split at h
  · next digits hDigits =>
      obtain ⟨hNil, hChars⟩ := exists_of_digitValues? hDigits
      have hBody : ∀ c ∈ (takeSign (trimBy isLiteralBlank s)).2, ¬ isBlank c := by
        intro c hc
        rcases hChars c hc with rfl | ⟨d, hDigit⟩
        · decide
        · exact not_isBlank_of_decimalDigit? hDigit
      rcases takeSign_cases (trimBy isLiteralBlank s) with hText | hText | hText <;> rw [hText]
      · exact ⟨hNil, hBody⟩
      · exact ⟨List.cons_ne_nil _ _, List.forall_mem_cons.mpr ⟨by decide, hBody⟩⟩
      · exact ⟨List.cons_ne_nil _ _, List.forall_mem_cons.mpr ⟨by decide, hBody⟩⟩
  · cases h

/-- A text that reads as an integer has one word, which reads as that integer. -/
theorem exists_word_of_integer? {s : List Char} {n : Int} (h : integer? s = some n) :
    ∃ word, words s = [word] ∧ integer? word = some n := by
  have hWord := isWord_of_integer? h
  obtain ⟨front, back, hText, hFront, hBack⟩ := exists_surrounding isLiteralBlank s
  refine ⟨trimBy isLiteralBlank s, ?_, ?_⟩
  · calc words s = words (front ++ trimBy isLiteralBlank s ++ back) := congrArg words hText
      _ = words (trimBy isLiteralBlank s) :=
          runs_surrounded (fun c hc => isBlank_of_isLiteralBlank (hFront c hc))
            (fun c hc => isBlank_of_isLiteralBlank (hBack c hc)) _
      _ = words (trimBy isLiteralBlank s ++ []) := by rw [List.append_nil]
      _ = [trimBy isLiteralBlank s] := words_append hWord rfl
  · rw [integer?, trimBy_trimBy]
    exact h

/-! ## What a literal denotes -/

/-- Decimal digits of any script, with at most one underscore between two of them, and their
values. -/
inductive IsDigits : List Char → List Nat → Prop where
  | last {c : Char} {d : Nat} (h : decimalDigit? c = some d) : IsDigits [c] [d]
  | next {c : Char} {d : Nat} {s : List Char} {digits : List Nat} (h : decimalDigit? c = some d)
      (hRest : IsDigits s digits) : IsDigits (c :: s) (d :: digits)
  | marked {c : Char} {d : Nat} {s : List Char} {digits : List Nat} (h : decimalDigit? c = some d)
      (hRest : IsDigits s digits) : IsDigits (c :: '_' :: s) (d :: digits)

/-- The integer of digits that are not too many, with a sign in front of them or without one. -/
inductive Denotes : List Char → Int → Prop where
  | bare {s : List Char} {digits : List Nat} (h : IsDigits s digits)
      (hLength : digits.length ≤ maxDecimalDigits) : Denotes s (valueOf 10 digits)
  | plus {s : List Char} {digits : List Nat} (h : IsDigits s digits)
      (hLength : digits.length ≤ maxDecimalDigits) : Denotes ('+' :: s) (valueOf 10 digits)
  | minus {s : List Char} {digits : List Nat} (h : IsDigits s digits)
      (hLength : digits.length ≤ maxDecimalDigits) : Denotes ('-' :: s) (-valueOf 10 digits)

theorem IsDigits.exists_head {s : List Char} {digits : List Nat} (h : IsDigits s digits) :
    ∃ c rest, s = c :: rest ∧ isDecimalDigit c := by
  cases h with
  | last h | next h _ | marked h _ => exact ⟨_, _, rfl, Option.isSome_of_eq_some h⟩

/-- The reader of digits decides the grammar, single underscores included. -/
theorem digitValues?_eq_some_iff {s : List Char} {digits : List Nat} :
    digitValues? decimalDigit? s = some digits ↔ IsDigits s digits := by
  constructor
  · intro h
    induction s using digitValues?.induct generalizing digits with
    | case1 => cases h
    | case2 c =>
        obtain ⟨d, hDigit, rfl⟩ := Option.map_eq_some_iff.mp h
        exact .last hDigit
    | case3 c s ih =>
        obtain ⟨d, hDigit, hRest⟩ := Option.bind_eq_some_iff.mp h
        obtain ⟨rest, hDigits, rfl⟩ := Option.map_eq_some_iff.mp hRest
        exact .marked hDigit (ih hDigits)
    | case4 c s hSingle hMark ih =>
        rw [digitValues?.eq_4 _ _ _ hSingle hMark] at h
        obtain ⟨d, hDigit, hRest⟩ := Option.bind_eq_some_iff.mp h
        obtain ⟨rest, hDigits, rfl⟩ := Option.map_eq_some_iff.mp hRest
        exact .next hDigit (ih hDigits)
  · intro h
    induction h with
    | last h => rw [digitValues?, h, Option.map_some]
    | @next c d s digits h hRest ih =>
        obtain ⟨e, rest, rfl, he⟩ := hRest.exists_head
        rw [digitValues?.eq_4, h, ih]
        · rfl
        · exact fun hNil => nomatch hNil
        · rintro t hMark
          cases hMark
          exact absurd he (by decide)
    | marked h hRest ih =>
        rw [digitValues?, h, ih]
        rfl

theorem takeSign_of_isDigits {s : List Char} {digits : List Nat} (h : IsDigits s digits) :
    takeSign s = (false, s) := by
  obtain ⟨c, rest, rfl, hc⟩ := h.exists_head
  unfold takeSign
  split
  · next hText => cases hText; exact absurd hc (by decide)
  · next hText => cases hText; exact absurd hc (by decide)
  · rfl

/-- A text reads as an integer exactly if it denotes that integer, white space around it ignored. -/
theorem integer?_eq_some_iff {s : List Char} {n : Int} :
    integer? s = some n ↔ Denotes (trimBy isLiteralBlank s) n := by
  generalize hText : trimBy isLiteralBlank s = text
  constructor
  · intro h
    rw [integer?, hText] at h
    dsimp only at h
    split at h
    · next digits hDigits =>
        split at h
        · next hLength =>
            cases h
            have hIs := digitValues?_eq_some_iff.mp hDigits
            unfold takeSign at hIs ⊢
            split at hIs
            · exact .minus hIs hLength
            · exact .plus hIs hLength
            · exact .bare hIs hLength
        · cases h
    · cases h
  · intro h
    rw [integer?, hText]
    cases h with
    | bare h hLength =>
      rw [takeSign_of_isDigits h]
      simp [digitValues?_eq_some_iff.mpr h, hLength, withSign]
    | plus h hLength =>
      simp [takeSign, digitValues?_eq_some_iff.mpr h, hLength, withSign]
    | minus h hLength =>
      simp [takeSign, digitValues?_eq_some_iff.mpr h, hLength, withSign]

end PodGauges.Number
