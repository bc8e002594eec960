import Mathlib
import PodGauges.Proofs.Except
import PodGauges.Proofs.Number.Hexadecimal
import PodGauges.Proofs.Pattern.Reading

/-! Why the reader of patterns refuses a text. Each part of the reader stays within the text behind
what announced it, so that what exceeds a limit can be pointed at where the text has it. -/

set_option mvcgen.warning false

namespace PodGauges.Pattern

open Number Std.Do

variable {text : List Char}

/-! ## Escapes -/

/-- A number is below the power of its base for the length in which it is spelled. -/
theorem spelled_lt (digits : List Char) : spelled 16 digits < 16 ^ digits.length := by
  have hValues : ∀ d ∈ digits.filterMap hexDigit?, d < 16 := by
    intro d hd
    obtain ⟨c, -, hc⟩ := List.mem_filterMap.mp hd
    exact hexDigit?_lt hc
  calc spelled 16 digits < 16 ^ (digits.filterMap hexDigit?).length := valueOf_lt hValues
    _ ≤ 16 ^ digits.length := Nat.pow_le_pow_right (by decide) (List.length_filterMap_le _ _)

/-- Only an escape of eight digits can spell a number beyond those that are looked up. -/
@[spec]
theorem hexEscape_keeps {c : Char} {width : Nat}
    (h : lookUpLimit ≤ 16 ^ width → c = 'U' ∧ width = 8) :
    Keeps text ['\\', c] (hexEscape c width) := by
  mvcgen [hexEscape, Reader.takeWhile_takes, -Reader.takeWhile_keeps]
  · next before hBefore digits _ _ hLength _ _ hPoint after hRun =>
      obtain ⟨hDigits, -, hTakes⟩ := hRun
      have hWidth : digits.length = width := not_not.mp hLength
      obtain ⟨rfl, rfl⟩ := h (hPoint.trans (hWidth ▸ (spelled_lt digits).le))
      exact .excess (.pointTooLarge hDigits (hBefore.takes hTakes).isInfix hWidth hPoint)
  · next before hBefore _ _ _ _ _ _ _ _ _ after hRun => exact (hBefore.takes hRun.2.2).nil

/-- Whichever names the dialect has, a name that it does not have is only a fault. -/
@[spec]
theorem namedEscape_keeps : Keeps text [] namedEscape := by
  mvcgen [namedEscape]

@[spec]
theorem octalPoint_keeps (written : String) (point : Nat) :
    Keeps text [] (octalPoint written point) := by
  mvcgen [octalPoint]

/-- Only an escape for a character can spell a number that is too large. -/
@[spec]
theorem pointEscape_keeps (c : Char) : Keeps text ['\\', c] (pointEscape c) := by
  have hTwo : ¬ lookUpLimit ≤ 16 ^ 2 := by decide
  have hFour : ¬ lookUpLimit ≤ 16 ^ 4 := by decide
  mvcgen [pointEscape]
  · exact fun _ _ h => absurd h hTwo
  · exact fun _ _ h => absurd h hFour
  · exact fun _ _ _ => trivial
  all_goals exact Behind.nil ‹_›

/-- In a set an escape is one for a class or one for a character. -/
@[spec]
theorem setEscape_keeps (c : Char) : Keeps text ['\\', c] (setEscape c) := by
  mvcgen [setEscape]
  all_goals exact Behind.nil ‹_›

@[spec]
theorem groupReference_keeps (group length : Nat) :
    Keeps text [] (groupReference group length) := by
  mvcgen [groupReference]

@[spec]
theorem numberEscape_keeps (c : Char) : Keeps text [] (numberEscape c) := by
  mvcgen [numberEscape]

/-- Outside of a set an escape may also be a reference or an assertion. -/
@[spec]
theorem escape_keeps (c : Char) : Keeps text ['\\', c] (escape c) := by
  mvcgen [escape]
  all_goals exact Behind.nil ‹_›

/-! ## Sets -/

@[spec]
theorem setPoint_keeps (token : Token) : Keeps text token.chars (setPoint token) := by
  cases token with
  | plain c =>
      mvcgen [setPoint]
      exact Behind.nil ‹_›
  | escaped c => exact setEscape_keeps c

/-- A set that ends before its bracket is a fault. -/
@[spec]
theorem setItems_keeps (start n : Nat) (items : List SetItem) :
    Keeps text [] (setItems start n items) := by
  induction n generalizing items with
  | zero => mvcgen [setItems]
  | succ n ih =>
      mvcgen [setItems, Reader.take_takes, -Reader.take_keeps, ih]
      · next hBefore _ _ _ _ _ hTake => exact (hBefore.takes hTake.2).nil
      · next hBefore _ _ _ _ _ hTake => exact hBefore.takes hTake.2
      · next hBefore _ _ _ _ _ hTake => exact (hBefore.takes hTake.2).nil
      · next hBefore _ _ _ _ _ hTake => exact hBefore.takes hTake.2

@[spec]
theorem charSet_keeps : Keeps text [] charSet := by
  mvcgen [charSet]

/-! ## Repetitions -/

/-- A number of repetitions is taken if it is neither too long nor too large. These are the two
excesses of a number. -/
@[spec]
theorem repeatCount?_keeps {digits : List Char} (h : IsCount text digits) :
    Keeps text [] (repeatCount? digits) := by
  mvcgen [repeatCount?]
  · exact .excess (.tooManyDigits h ‹_›)
  · exact .excess (.tooManyRepetitions h ‹_›)

/-- Digits that are taken behind a brace or a comma are a number of repetitions of the text. -/
theorem IsCount.of_takes {digits : List Char} {mark : Char} {n : Nat} {before after : Reading}
    (hMark : mark = '\x7b' ∨ mark = ',')
    (h : Behind text [mark] before.source.unread before.flags)
    (hRun : (∀ c ∈ digits, isDigit c) ∧ digits.length ≤ n ∧ Takes digits before after) :
    IsCount text digits :=
  ⟨hRun.1, mark, hMark, (h.takes hRun.2.2).isInfix⟩

/-- Of the digits that are taken behind a brace, the first run follows the brace and the second one
a comma. If no other brace follows them, all is left unread again. -/
@[spec]
theorem braces_keeps : Keeps text ['\x7b'] braces := by
  -- With or without a comma there are a refusal of each number, the end behind the other brace, and
  -- the way back.
  mvcgen [braces, Reader.takeWhile_takes, -Reader.takeWhile_keeps, Reader.accept_takes,
    -Reader.accept_keeps, Reader.peek, Reader.position]
  · exact Behind.nil ‹_›
  · next hBefore _ _ _ _ hLow _ _ _ _ _ _ _ _ _ _ _ _ => exact .of_takes (.inl rfl) hBefore hLow
  · next hBefore _ _ _ _ hLow _ _ _ _ hComma _ _ hHigh _ _ _ hBrace =>
      exact (((hBefore.takes hLow.2.2).takes hComma).takes (hHigh.2.2.append hBrace)).nil
  · next hBefore _ _ _ _ hLow _ _ hFound _ hComma _ _ hHigh _ _ _ _ _ _ _ _ =>
      subst hFound
      exact .of_takes (.inr rfl) ((hBefore.takes hLow.2.2).takes hComma).of_append hHigh
  · next before hBefore _ _ _ _ hLow _ _ _ _ hComma _ _ hHigh _ _ after hBrace _ =>
      have hFlags : after.flags = before.flags :=
        ((hLow.2.2.append hComma).append (hHigh.2.2.append hBrace)).flags
      exact hFlags ▸ hBefore.nil
  · next hBefore _ _ _ _ hLow _ _ _ _ _ _ _ _ _ => exact .of_takes (.inl rfl) hBefore hLow
  · next hBefore _ _ _ _ hLow _ _ _ _ hComma _ _ _ hBrace =>
      exact ((hBefore.takes hLow.2.2).takes (hComma.append hBrace)).nil
  · next hBefore _ _ _ _ hLow _ _ _ _ _ _ _ _ _ _ _ _ _ =>
      exact .of_takes (.inl rfl) hBefore hLow
  · next before hBefore _ _ _ _ hLow _ _ _ _ hComma _ _ after hBrace _ =>
      have hFlags : after.flags = before.flags :=
        ((hLow.2.2.append hComma).append hBrace).flags
      exact hFlags ▸ hBefore.nil

@[spec]
theorem counts?_keeps (mark : Char) (h : mark = '?' ∨ mark = '*' ∨ mark = '+' ∨ mark = '\x7b') :
    Keeps text [mark] (counts? mark) := by
  rcases h with rfl | rfl | rfl | rfl
  all_goals
    mvcgen [counts?]
    try exact Behind.nil ‹_›

@[spec]
theorem repeated_keeps (mark least : Nat) (most : Option Nat) (items : List Node) :
    Keeps text [] (repeated mark least most items) := by
  mvcgen [repeated]

/-! ## Flags -/

/-- Letters that turn flags on, those that choose the classes among them. -/
structure Spells (letters : List Char) (on : Flags) : Prop where
  known : ∀ c ∈ letters, (flagOf? c).isSome
  ascii : on.ascii → 'a' ∈ letters
  unicode : on.unicode → 'u' ∈ letters

theorem spells_nil : Spells [] {} where
  known _ h := absurd h List.not_mem_nil
  ascii h := absurd h Bool.false_ne_true
  unicode h := absurd h Bool.false_ne_true

/-- One letter more spells one flag more. -/
theorem Spells.union {letters : List Char} {letter : Char} {on flag : Flags}
    (h : Spells letters on) (hFlag : flagOf? letter = some flag) :
    Spells (letters ++ [letter]) (on.union flag) where
  known := by
    intro c hc
    rcases List.mem_append.mp hc with hc | hc
    · exact h.known c hc
    · rw [List.mem_singleton.mp hc, hFlag]
      rfl
  ascii hAscii := by
    rcases Bool.or_eq_true_iff.mp hAscii with hOn | hOn
    · exact List.mem_append_left _ (h.ascii hOn)
    · unfold flagOf? at hFlag
      split at hFlag <;> cases hFlag <;> first | exact absurd hOn Bool.false_ne_true | simp
  unicode hUnicode := by
    rcases Bool.or_eq_true_iff.mp hUnicode with hOn | hOn
    · exact List.mem_append_left _ (h.unicode hOn)
    · unfold flagOf? at hFlag
      split at hFlag <;> cases hFlag <;> first | exact absurd hOn Bool.false_ne_true | simp

/-- Flags for the whole pattern are flags of the text. -/
theorem Behind.union {letters unread : List Char} {flags on : Flags} (hOn : Spells letters on)
    (h : Behind text ('(' :: '?' :: (letters ++ [')'])) unread flags) :
    Behind text [] unread (flags.union on) where
  suffix := h.nil.suffix
  ascii hAscii := by
    rcases Bool.or_eq_true_iff.mp hAscii with hAscii | hAscii
    · exact h.ascii hAscii
    · exact ⟨letters, hOn.known, hOn.ascii hAscii, h.isInfix⟩
  unicode hUnicode := by
    rcases Bool.or_eq_true_iff.mp hUnicode with hUnicode | hUnicode
    · exact h.unicode hUnicode
    · exact ⟨letters, hOn.known, hOn.unicode hUnicode, h.isInfix⟩

@[spec]
theorem refuseFlag_spec {α : Type} (token : Token) (what : String) (post : α → Reading → Prop) :
    ⦃fun _ => ⌜True⌝⦄ (refuseFlag token what : Reader α) ⦃Ends text post⦄ := by
  cases token <;> exact fun _ _ => .malformed ..

/-- Flags are turned on by letters that stand one after another. -/
theorem flagsOn_spec (n : Nat) (letter : Char) (on : Flags) (letters : List Char)
    (hOn : Spells letters on) :
    ⦃At text ('(' :: '?' :: (letters ++ [letter]))⦄ flagsOn n letter on
    ⦃Ends text fun result state => ∃ letters, Spells letters result.1 ∧
      Behind text ('(' :: '?' :: (letters ++ [result.2])) state.source.unread state.flags⦄ := by
  induction n generalizing letter on letters with
  | zero => mvcgen [flagsOn]
  | succ n ih =>
      have hNext (c : Char) (on : Flags) := ih c on (letters ++ [letter])
      mvcgen [flagsOn, Reader.take_takes, -Reader.take_keeps, hNext]
      · next hFlag _ _ _ _ hBefore _ _ _ _ _ hTake =>
          exact ⟨_, hOn.union hFlag, hBefore.takes hTake.2⟩
      · next hBefore _ _ _ _ _ _ hTake => exact hBefore.takes hTake.2
      · next hFlag _ _ _ _ _ _ _ _ _ _ => exact fun _ _ _ => hOn.union hFlag

/-- Flags that are turned off are none for the whole pattern. -/
@[spec]
theorem flagsOff_keeps (n : Nat) (letter : Char) (off : Flags) :
    Keeps text [] (flagsOff n letter off) := by
  induction n generalizing letter off with
  | zero => mvcgen [flagsOff]
  | succ n ih => mvcgen [flagsOff, ih]

@[spec]
theorem firstFlagOff_keeps : Keeps text [] firstFlagOff := by
  mvcgen [firstFlagOff]

/-- Flags for the whole pattern are turned on by the letters between the brackets. -/
@[spec]
theorem groupFlags_keeps (first : Char) : Keeps text ['(', '?', first] (groupFlags first) := by
  have hFlagsOn (n : Nat) := @flagsOn_spec text n first {} [] spells_nil
  mvcgen [groupFlags, hFlagsOn]
  · exact Behind.nil ‹_›
  · next hLast _ hFlags _ =>
      obtain ⟨letters, hOn, hBehind⟩ := hFlags
      exact .union hOn (hLast ▸ hBehind)
  · next hFlags =>
      obtain ⟨letters, -, hBehind⟩ := hFlags
      exact hBehind.nil
  · next hFlags _ _ _ _ =>
      obtain ⟨letters, -, hBehind⟩ := hFlags
      exact hBehind.nil

/-! ## Groups -/

@[spec]
theorem groupName_keeps (terminator : Char) : Keeps text [] (groupName terminator) := by
  mvcgen [groupName]

/-- A name that is not the name of a group is a fault. -/
@[spec]
theorem namedGroup_keeps (name : List Char) : Keeps text [] (namedGroup name) := by
  mvcgen [namedGroup]

@[spec]
theorem namedReference_keeps : Keeps text [] namedReference := by
  mvcgen [namedReference]

/-- A condition names a group or numbers it. -/
@[spec]
theorem conditionGroup_keeps : Keeps text [] conditionGroup := by
  mvcgen [conditionGroup]
  next h state =>
    simp only [state]
    split <;> exact h

@[spec]
theorem skipComment_keeps (start n : Nat) : Keeps text [] (skipComment start n) := by
  induction n with
  | zero => mvcgen [skipComment]
  | succ n ih => mvcgen [skipComment, ih]

@[spec]
theorem skipLine_keeps (n : Nat) : Keeps text [] (skipLine n) := by
  induction n with
  | zero => mvcgen [skipLine]
  | succ n ih => mvcgen [skipLine, ih]

@[spec]
theorem closing_keeps (start : Nat) : Keeps text [] (closing start) := by
  mvcgen [closing]

/-- What is read inside of brackets stays within the text. -/
structure Inside.Keeps (text : List Char) (inside : Inside) : Prop where
  alternatives (verbose : Bool) : Pattern.Keeps text [] (inside.alternatives verbose)
  sequence (verbose : Bool) : Pattern.Keeps text [] (inside.sequence verbose)

section Inside

variable {inside : Inside} (h : inside.Keeps text)
include h

theorem captured_keeps (name : Option (List Char)) (verbose : Bool) (start : Nat) :
    Keeps text [] (captured inside name verbose start) := by
  have hBody := h.alternatives
  mvcgen [captured, hBody]

theorem enclosed_keeps (on off : Flags) (verbose : Bool) (start : Nat) :
    Keeps text [] (enclosed inside on off verbose start) := by
  have hBody := h.alternatives
  mvcgen [enclosed, hBody]

theorem looking_keeps (ahead negated verbose : Bool) (start : Nat) :
    Keeps text [] (looking inside ahead negated verbose start) := by
  have hBody := h.alternatives
  mvcgen [looking, hBody]

theorem lookingBehind_keeps (verbose : Bool) (start : Nat) :
    Keeps text [] (lookingBehind inside verbose start) := by
  have hLooking := looking_keeps h
  mvcgen [lookingBehind, hLooking]

theorem named_keeps (verbose : Bool) (start : Nat) :
    Keeps text [] (named inside verbose start) := by
  have hCaptured := captured_keeps h
  mvcgen [named, hCaptured]

theorem conditional_keeps (verbose : Bool) (start : Nat) :
    Keeps text [] (conditional inside verbose start) := by
  have hBranch := h.sequence
  mvcgen [conditional, hBranch]

/-- Behind a question mark there are only the known extensions. -/
theorem extension_keeps (atStart verbose : Bool) (start : Nat) (c : Char) :
    Keeps text ['(', '?', c] (extension inside atStart verbose start c) := by
  have hBody := h.alternatives
  have hNamed := named_keeps h
  have hEnclosed := enclosed_keeps h
  have hLooking := looking_keeps h
  have hLookingBehind := lookingBehind_keeps h
  have hConditional := conditional_keeps h
  mvcgen [extension, hBody, hNamed, hEnclosed, hLooking, hLookingBehind, hConditional]
  all_goals exact Behind.nil ‹_›

theorem bracketed_keeps (atStart verbose : Bool) (start : Nat) :
    Keeps text ['('] (bracketed inside atStart verbose start) := by
  have hCaptured := captured_keeps h
  have hExtension := extension_keeps h
  mvcgen [bracketed, hCaptured, hExtension, Reader.accept_takes, -Reader.accept_keeps,
    Reader.take_takes, -Reader.take_keeps]
  · next hBefore _ hFound _ hMark _ _ _ _ _ _ hTake =>
      subst hFound
      exact (hBefore.takes hMark).takes hTake.2
  · next hBefore _ _ _ hMark => exact (hBefore.takes hMark).nil

end Inside

/-! ## Sequences -/

/-- A character may be a repetition of what stands in front of it. -/
theorem extended_keeps (c : Char) (here : Nat) (items : List Node) :
    Keeps text [c] (sequence.extended c here items) := by
  mvcgen [sequence.extended]
  all_goals exact Behind.nil ‹_›

section Sequence

variable {inside : Inside} (h : inside.Keeps text)
include h

/-- A sequence ends at the end of the text, at a bar or at a bracket. The induction is on how much
may still be read. -/
theorem sequence_keeps (first : Bool) (n : Nat) (verbose : Bool) (items : List Node) :
    Keeps text [] (sequence inside first n verbose items) := by
  have hBracketed := bracketed_keeps h
  have hExtended := @extended_keeps text
  induction n generalizing verbose items with
  | zero => mvcgen [sequence]
  | succ n ih =>
      mvcgen [sequence, hBracketed, hExtended, Reader.peek, -Reader.peek_keeps, Reader.take_takes,
        -Reader.take_keeps, ih]
      · next hBehind c hNext _ _ hTake => exact hBehind.takes_next hNext hTake
      · next hBehind c hNext _ _ _ _ hTake => exact (hBehind.takes_next hNext hTake).nil
      · next hBehind c hNext _ _ _ _ _ hTake => exact (hBehind.takes_next hNext hTake).nil
      · next hBehind c hNext _ _ _ _ hc _ hTake => exact hc ▸ hBehind.takes_next hNext hTake
      · next hBehind c hNext _ _ _ _ _ _ hTake => exact hBehind.takes_next hNext hTake

theorem moreAlternatives_keeps (nested : Bool) (length : Nat) (verbose : Bool) (n : Nat) :
    Keeps text [] (moreAlternatives inside nested length verbose n) := by
  have hSequence := sequence_keeps h
  induction n generalizing verbose with
  | zero => mvcgen [moreAlternatives]
  | succ n ih => mvcgen [moreAlternatives, hSequence, ih]

theorem alternatives_keeps (nested : Bool) (length : Nat) (verbose : Bool) :
    Keeps text [] (alternatives inside nested length verbose) := by
  have hSequence := sequence_keeps h
  have hMore := moreAlternatives_keeps h
  mvcgen [alternatives, hSequence, hMore]

end Sequence

/-- At every depth of brackets the reader stays within the text. The induction is on the depth. -/
theorem insideOf_keeps (length depth : Nat) : (insideOf length depth).Keeps text := by
  induction depth with
  | zero => exact ⟨fun _ _ _ => .malformed .., fun _ _ _ => .malformed ..⟩
  | succ depth ih =>
      exact ⟨alternatives_keeps ih true length,
        fun verbose => sequence_keeps ih false length verbose []⟩

/-- A whole pattern stays within the text; the flags for it may exclude each other, which is the
last excess. -/
theorem wholePattern_keeps (length : Nat) : Keeps text [] (wholePattern length) := by
  have hInside := alternatives_keeps (@insideOf_keeps text (length + 2) (length + 2))
  mvcgen [wholePattern, hInside]
  next hBehind _ _ hFlags =>
    obtain ⟨hAscii, hUnicode⟩ := Bool.and_eq_true_iff.mp hFlags
    exact .excess (.twoClassFlags (hBehind.ascii hAscii) (hBehind.unicode hUnicode))

/-- Why a text is refused without being malformed: for what exceeds a limit in it, or because its
brackets are nested too deep for the dialect. -/
inductive Overruns (dialect : Dialect) (text : List Char) : Error → Prop where
  | excess {error : Error} (h : Excess text error) : Overruns dialect text error
  | tooDeep (h : dialect.isTooDeep text) : Overruns dialect text .tooDeep

/-- A text is refused as malformed, or as one that overruns a limit of the reader. -/
theorem malformed_or_overruns_of_ofString {dialect : Dialect} {text : String} {error : Error}
    (h : Pattern.ofString dialect text = .error error) :
    (∃ fault position, error = .malformed fault position) ∨ Overruns dialect text.toList error := by
  have hExplained (h : Explains text.toList error) :
      (∃ fault position, error = .malformed fault position) ∨
        Overruns dialect text.toList error := by
    cases h with
    | malformed fault position => exact .inl ⟨fault, position, rfl⟩
    | excess h => exact .inr (.excess h)
  unfold Pattern.ofString at h
  by_cases hDeep : dialect.isTooDeep text.toList
  · rw [if_pos hDeep] at h
    cases h
    exact .inr (.tooDeep hDeep)
  rw [if_neg hDeep] at h
  apply hExplained
  rcases bind_eq_error.mp h with hLoad | ⟨source, hSource, h⟩
  · have hExplained := @load_spec text.toList text.toList 0 trivial
    rw [hLoad] at hExplained
    exact hExplained
  have hUnread : source.unread = text.toList := unread_of_load hSource
  have hBehind : Behind text.toList [] source.unread {} :=
    ⟨hUnread ▸ List.suffix_rfl, fun h => absurd h Bool.false_ne_true,
      fun h => absurd h Bool.false_ne_true⟩
  rcases bind_eq_error.mp h with hRun | ⟨⟨⟨flags, root⟩, _⟩, -, h⟩
  · exact (wholePattern_keeps text.toList.length).explains hBehind hRun
  · dsimp only at h
    split at h <;> cases h
    exact .malformed ..

end PodGauges.Pattern
