import Mathlib
import PodGauges.Pattern.Grammar

/-! The reader of patterns takes a text from its beginning on. States are told apart by what is
still unread and by the flags for the whole pattern; an error is explained by the text. A reader
has a triple, from the state before it to the one behind it. -/

set_option mvcgen.warning false

namespace PodGauges.Pattern

open Number Std.Do

/-! ## What an error tells of the text -/

/-- Letters of flags for the whole pattern stand in a text, and a given one is among them. -/
def AsksFor (text : List Char) (letter : Char) : Prop :=
  ∃ letters, (∀ c ∈ letters, (flagOf? c).isSome) ∧ letter ∈ letters ∧
    '(' :: '?' :: (letters ++ [')']) <:+: text

/-- Digits stand in a text behind an opening brace or a comma, as a number of repetitions does. -/
structure IsCount (text digits : List Char) : Prop where
  all_digits : ∀ c ∈ digits, isDigit c
  stands : ∃ mark, (mark = '\x7b' ∨ mark = ',') ∧ mark :: digits <:+: text

/-- What is in a text that is refused without being malformed: a number of repetitions that is too
large or too long, the number of a character that is too large, or flags that exclude each other. -/
inductive Excess (text : List Char) : Error → Prop where
  | tooManyRepetitions {digits : List Char} (h : IsCount text digits)
      (hCount : maxRepeat ≤ spelled 10 digits) : Excess text .tooManyRepetitions
  | tooManyDigits {digits : List Char} (h : IsCount text digits)
      (hLength : maxDecimalDigits < digits.length) : Excess text (.tooManyDigits digits.length)
  | pointTooLarge {digits : List Char} (hDigits : ∀ c ∈ digits, isHex c)
      (hText : '\\' :: 'U' :: digits <:+: text) (hLength : digits.length = 8)
      (hPoint : lookUpLimit ≤ spelled 16 digits) : Excess text .pointTooLarge
  | twoClassFlags (hAscii : AsksFor text 'a') (hUnicode : AsksFor text 'u') :
      Excess text .twoClassFlags

/-- A text explains an error if it is malformed, or if something in it exceeds a limit. -/
inductive Explains (text : List Char) : Error → Prop where
  | malformed (fault : Fault) (position : Option Nat) : Explains text (.malformed fault position)
  | excess {error : Error} (h : Excess text error) : Explains text error

/-! ## States -/

def Token.chars : Token → List Char
  | .plain c => [c]
  | .escaped c => ['\\', c]

/-- The characters that have not been taken. -/
def Source.unread (source : Source) : List Char := source.next.elim [] Token.chars ++ source.rest

/-- Some characters of a text stand in front of what is unread, and the flags are those of the
text. -/
structure Behind (text taken unread : List Char) (flags : Flags) : Prop where
  suffix : taken ++ unread <:+ text
  ascii : flags.ascii → AsksFor text 'a'
  unicode : flags.unicode → AsksFor text 'u'

/-- A reader has taken some characters between two states, and has read no flags. -/
structure Takes (taken : List Char) (before after : Reading) : Prop where
  unread : before.source.unread = taken ++ after.source.unread
  flags : after.flags = before.flags

/-- The states in which a reader is behind some characters of a text. -/
abbrev At (text taken : List Char) : Assertion (.arg Reading (.except Error .pure)) :=
  fun state => ⌜Behind text taken state.source.unread state.flags⌝

/-- What holds of the value and the state that a reader ends with, unless it refuses the text for a
reason. -/
abbrev Ends (text : List Char) {α : Type} (post : α → Reading → Prop) :
    PostCond α (.arg Reading (.except Error .pure)) :=
  post⟨fun a state => ⌜post a state⌝, fun error => ⌜Explains text error⌝⟩

/-- Behind some characters of a text a reader stays within the text, or refuses it for a reason. -/
abbrev Keeps (text taken : List Char) {α : Type} (reader : Reader α) : Prop :=
  ⦃At text taken⦄ reader
  ⦃Ends text fun _ state => Behind text [] state.source.unread state.flags⦄

section States

variable {text taken more unread : List Char} {flags : Flags} {before middle after : Reading}

/-- Of what stands in front the end stands in front, too. -/
theorem Behind.of_append (h : Behind text (taken ++ more) unread flags) :
    Behind text more unread flags where
  suffix := (List.suffix_append taken (more ++ unread)).trans (by simpa using h.suffix)
  ascii := h.ascii
  unicode := h.unicode

theorem Behind.nil (h : Behind text taken unread flags) : Behind text [] unread flags :=
  Behind.of_append (by rwa [List.append_nil])

/-- What has been taken is a part of the text. -/
theorem Behind.isInfix (h : Behind text taken unread flags) : taken <:+: text :=
  (List.prefix_append taken unread).isInfix.trans h.suffix.isInfix

theorem Takes.nil (before : Reading) : Takes [] before before := ⟨rfl, rfl⟩

/-- What two readers take one after another stands together. -/
theorem Takes.append (h : Takes taken before middle) (hMore : Takes more middle after) :
    Takes (taken ++ more) before after where
  unread := by rw [h.unread, hMore.unread, List.append_assoc]
  flags := hMore.flags.trans h.flags

/-- A reader that takes more has more in front of what is unread. -/
theorem Behind.takes (h : Behind text taken before.source.unread before.flags)
    (hMore : Takes more before after) :
    Behind text (taken ++ more) after.source.unread after.flags := by
  rw [hMore.flags]
  refine ⟨?_, h.ascii, h.unicode⟩
  rw [List.append_assoc, ← hMore.unread]
  exact h.suffix

/-- The character that comes next is the one that is taken. -/
theorem Behind.takes_next {token : Token} {taken? : Option Token}
    (h : Behind text [] before.source.unread before.flags) (hNext : before.source.next = some token)
    (hTake : taken? = before.source.next ∧ Takes (taken?.elim [] Token.chars) before after) :
    Behind text token.chars after.source.unread after.flags := by
  obtain ⟨rfl, hTakes⟩ := hTake
  rw [hNext] at hTakes
  exact h.takes hTakes

end States

/-- An error of a reader that stays within a text is explained by the text. -/
theorem Keeps.explains {text taken : List Char} {α : Type} {reader : Reader α} {state : Reading}
    {error : Error} (h : Keeps text taken reader)
    (hState : Behind text taken state.source.unread state.flags)
    (hRun : reader.run state = .error error) : Explains text error := by
  have hReader : (wp⟦reader.run state⟧
      post⟨fun result => ⌜Behind text [] result.2.source.unread result.2.flags⌝,
        fun error => ⌜Explains text error⌝⟩).down := h state hState
  rw [hRun] at hReader
  exact hReader

/-! ## Refusing and taking -/

theorem unread_of_load {rest : List Char} {index : Nat} {source : Source}
    (h : Source.load rest index = .ok source) : source.unread = rest := by
  unfold Source.load at h
  split at h <;> cases h <;> rfl

variable {text : List Char}

/-- A text is loaded in full or is malformed at its end. -/
@[spec]
theorem load_spec (rest : List Char) (index : Nat) :
    ⦃⌜True⌝⦄ Source.load rest index
    ⦃post⟨fun source => ⌜source.unread = rest⌝, fun error => ⌜Explains text error⌝⟩⦄ := by
  intro _
  cases h : Source.load rest index with
  | ok source => exact unread_of_load h
  | error error =>
      unfold Source.load at h
      split at h <;> cases h
      exact .malformed ..

namespace Reader

@[spec high]
theorem throw_spec {α : Type} (error : Error) (post : α → Reading → Prop) :
    ⦃fun _ => ⌜Explains text error⌝⦄ (throw error : Reader α) ⦃Ends text post⦄ :=
  fun _ h => h

@[spec]
theorem failAt_spec {α : Type} (fault : Fault) (position : Nat) (post : α → Reading → Prop) :
    ⦃fun _ => ⌜True⌝⦄ (failAt fault position : Reader α) ⦃Ends text post⦄ :=
  fun _ _ => .malformed ..

@[spec]
theorem fail_spec {α : Type} (fault : Fault) (back : Nat) (post : α → Reading → Prop) :
    ⦃fun _ => ⌜True⌝⦄ (fail fault back : Reader α) ⦃Ends text post⦄ :=
  fun _ _ => .malformed ..

section Taking

variable (before : Reading)

/-- One character is taken, or none at the end. -/
theorem take_takes : ⦃fun state => ⌜state = before⌝⦄ take
    ⦃Ends text fun token state => token = before.source.next ∧
      Takes (token.elim [] Token.chars) before state⦄ := by
  mvcgen [take]
  next state hState source hUnread =>
    subst hState
    refine ⟨rfl, ?_, rfl⟩
    rw [hUnread]
    rfl

/-- A character is taken just if it is the one that is asked for. -/
theorem accept_takes (c : Char) : ⦃fun state => ⌜state = before⌝⦄ accept c
    ⦃Ends text fun found state => Takes (if found then [c] else []) before state⦄ := by
  mvcgen [accept, peek, take_takes]
  · next state hState hNext token after hTake =>
      subst hState
      obtain ⟨rfl, hTake⟩ := hTake
      rwa [hNext] at hTake
  · next state hState _ =>
      subst hState
      exact .nil _

/-- A run of characters of a class is taken from the front. -/
theorem takeWhile_takes (p : Char → Bool) (n : Nat) :
    ⦃fun state => ⌜state = before⌝⦄ takeWhile p n
    ⦃Ends text fun run state => (∀ c ∈ run, p c) ∧ run.length ≤ n ∧ Takes run before state⦄ := by
  have hNil : (∀ c ∈ ([] : List Char), p c) := fun _ h => absurd h List.not_mem_nil
  induction n generalizing before with
  | zero =>
      mvcgen [takeWhile]
      next state hState =>
        subst hState
        exact ⟨hNil, Nat.zero_le _, .nil _⟩
  | succ n ih =>
      mvcgen [takeWhile, peek, take_takes, ih]
      · next state hState c hNext hc token middle hTake run after hRun =>
          subst hState
          obtain ⟨rfl, hTake⟩ := hTake
          rw [hNext] at hTake
          exact ⟨List.forall_mem_cons.mpr ⟨hc, hRun.1⟩, Nat.succ_le_succ hRun.2.1,
            hTake.append hRun.2.2⟩
      all_goals
        next state hState _ _ _ =>
          subst hState
          exact ⟨hNil, Nat.zero_le _, .nil _⟩

end Taking

@[spec]
theorem take_keeps : Keeps text [] take := by
  mvcgen [take_takes]
  next before h _ _ => exact fun _ hTake => (h.takes hTake).nil

@[spec]
theorem peek_keeps : Keeps text [] peek := by
  mvcgen [peek]

@[spec]
theorem position_keeps : Keeps text [] position := by
  mvcgen [position]

@[spec]
theorem accept_keeps (c : Char) : Keeps text [] (accept c) := by
  mvcgen [accept]

@[spec]
theorem takeWhile_keeps (p : Char → Bool) (n : Nat) : Keeps text [] (takeWhile p n) := by
  mvcgen [takeWhile_takes]
  next before h _ _ => exact fun _ _ hTake => (h.takes hTake).nil

/-- Characters up to a terminator are taken within the text, or it is missing. -/
@[spec]
theorem takeUntil_keeps (terminator : Char) (what : String) (n : Nat) (taken : List Char) :
    Keeps text [] (takeUntil terminator what n taken) := by
  induction n generalizing taken with
  | zero =>
      mvcgen [takeUntil]
      exact .malformed ..
  | succ n ih => mvcgen [takeUntil, ih]

@[spec]
theorem name_keeps (terminator : Char) (what : String) : Keeps text [] (name terminator what) := by
  mvcgen [name]

@[spec]
theorem groupCount_keeps : Keeps text [] groupCount := by
  mvcgen [groupCount]

@[spec]
theorem closedWidth?_keeps (group : Nat) : Keeps text [] (closedWidth? group) := by
  mvcgen [closedWidth?]

/-- A reference to an open group is a fault in a look behind, and no more than that. -/
@[spec]
theorem checkLookBehind_keeps (group : Nat) : Keeps text [] (checkLookBehind group) := by
  mvcgen [checkLookBehind]

/-- A group may be one too many or have a name that is taken; both are faults. -/
@[spec]
theorem openGroup_keeps (name : Option (List Char)) : Keeps text [] (openGroup name) := by
  mvcgen [openGroup]
  next => split <;> mvcgen

@[spec]
theorem closeGroup_keeps (group : Nat) (body : Node) : Keeps text [] (closeGroup group body) := by
  mvcgen [closeGroup]

end Reader

end PodGauges.Pattern
