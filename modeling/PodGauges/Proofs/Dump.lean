import Mathlib
import PodGauges.Dump
import PodGauges.Proofs.Keyed
import PodGauges.Proofs.Number.Decimal
import PodGauges.Proofs.Text.Utf8

/-! Dumps of counters, in the form in which the kernel writes them and as they are read. A line says
the same wherever it stands, so that lines which give no key leave the others as they are. -/
namespace PodGauges.Dump

open Number Text

/-! ## What the kernel writes -/

/-- A line that gives a number under a key, with spaces or tabs between the two. Anything may stand
behind them. -/
inductive IsEntry (key : String) (n : Nat) : List UInt8 → Prop where
  | intro {gap rest : List Char} (hNil : gap ≠ []) (hGap : ∀ c ∈ gap, c = ' ' ∨ c = '\t')
      (hRest : EndsWord rest) (hLine : IsLine rest) :
      IsEntry key n
        (Utf8.encode (String.ofList (key.toList ++ (gap ++ (Nat.toDigits 10 n ++ rest)))))

/-- Bytes of which no line begins with one of some keys. -/
def IsSilent (keys : List String) (bytes : List UInt8) : Prop :=
  ∀ line ∈ lines (Utf8.decodeLossy bytes), ∀ key ∈ keys, (words line).head? ≠ some key.toList

/-- The rows of a dump: each key that has a number is given it, in any order, and all else says
nothing of these keys. -/
structure IsDump (keys : List String) (number : String → Option UInt64)
    (rows : List (List UInt8)) : Prop where
  row : ∀ row ∈ rows,
    (∃ key ∈ keys, ∃ n, number key = some n ∧ IsEntry key n.toNat row) ∨ IsSilent keys row
  complete : ∀ key ∈ keys, ∀ n, number key = some n → ∃ row ∈ rows, IsEntry key n.toNat row

/-- Rows with a line feed behind each of them. -/
def joined (rows : List (List UInt8)) : List UInt8 := rows.flatMap (· ++ [10])

/-! ## Readings -/

/-- A line that gives an integer for a key: these are its first two words. -/
def Gives (key : List Char) (n : Int) (line : List Char) : Prop :=
  ∃ value rest, words line = key :: value :: rest ∧ integer? value = some n

/-- The number of the last line that gives one, if any does. -/
inductive IsLast (gives : Int → List Char → Prop) (all : List (List Char)) : Option Int → Prop where
  | given {front back : List (List Char)} {line : List Char} {n : Int}
      (hLines : all = front ++ line :: back) (hGiven : gives n line)
      (hLater : ∀ later ∈ back, ∀ m, ¬ gives m later) : IsLast gives all (some n)
  | missing (hNone : ∀ line ∈ all, ∀ n, ¬ gives n line) : IsLast gives all none

section Keys

variable {κ : Type} {k : κ} {n : Int}

/-- A line is a reading just if its first word is a key and a number follows. -/
theorem reading?_eq_some {key? : List Char → Option κ} {line : List Char} :
    reading? key? line = some (k, n) ↔ ∃ word, key? word = some k ∧ Gives word n line := by
  unfold reading?
  split
  · next word value rest hWords =>
      simp only [Option.bind_eq_some_iff, Option.map_eq_some_iff, Prod.mk.injEq, Gives, hWords,
        List.cons.injEq]
      constructor
      · rintro ⟨k, hKey, n, hValue, rfl, rfl⟩
        exact ⟨word, hKey, value, rest, ⟨rfl, rfl, rfl⟩, hValue⟩
      · rintro ⟨word, hKey, value, rest, ⟨rfl, rfl, rfl⟩, hValue⟩
        exact ⟨k, hKey, n, hValue, rfl, rfl⟩
  · next hWords =>
      refine iff_of_false (by simp) ?_
      rintro ⟨word, -, value, rest, hGiven, -⟩
      exact hWords _ _ _ hGiven

theorem mem_readings {key? : List Char → Option κ} {text : List Char} :
    (k, n) ∈ readings key? text ↔ ∃ line ∈ lines text, ∃ word, key? word = some k ∧
      Gives word n line := by
  simp [readings, reading?_eq_some]

section Spelling

variable {all : List κ} {spelling : κ → String}
  (hKey : ∀ k, keyOf? all spelling (spelling k).toList = some k)
include hKey

/-- Among keys that are found by their spelling, a line gives just the one that it spells. -/
theorem reading?_keyOf?_eq_some {line : List Char} :
    reading? (keyOf? all spelling) line = some (k, n) ↔ Gives (spelling k).toList n line := by
  rw [reading?_eq_some]
  constructor
  · rintro ⟨word, hWord, hGiven⟩
    have hSpelled : (spelling k).toList = word := by simpa using List.find?_some hWord
    rwa [hSpelled]
  · intro hGiven
    exact ⟨_, hKey k, hGiven⟩

theorem mem_readings_keyOf? {text : List Char} :
    (k, n) ∈ readings (keyOf? all spelling) text ↔
      ∃ line ∈ lines text, Gives (spelling k).toList n line := by
  simp only [readings, List.mem_filterMap, reading?_keyOf?_eq_some hKey]

end Spelling

end Keys

section Readings

variable {κ : Type} (key? : List Char → Option κ)

/-- Empty lines say nothing, so that the readings are those of the runs between line ends. -/
theorem readings_eq_filterMap_runs (text : List Char) :
    readings key? text = (runs isLineBreak text).filterMap (reading? key?) := by
  rw [readings, ← filter_lines, List.filterMap_filter]
  refine List.filterMap_congr fun line _ => ?_
  by_cases hLine : line = []
  · simp [hLine, reading?, words, runs]
  · simp [hLine]

/-- A single line says what it says. -/
theorem readings_of_isLine {line : List Char} (hNil : line ≠ []) (h : IsLine line) :
    readings key? line = (reading? key? line).toList := by
  have hRuns : runs isLineBreak (line ++ []) = [line] := runs_append hNil h rfl
  rw [List.append_nil] at hRuns
  rw [readings_eq_filterMap_runs, hRuns, List.filterMap_cons]
  cases reading? key? line <;> rfl

/-- It makes no difference which characters end the lines. -/
theorem readings_unifyNewlines (text : List Char) :
    readings key? (unifyNewlines text) = readings key? text := by
  rw [readings_eq_filterMap_runs, readings_eq_filterMap_runs, runs_unifyNewlines]

/-- A line feed parts the readings of a text. -/
theorem readings_append_newline (front rest : List Char) :
    readings key? (front ++ '\n' :: rest) = readings key? front ++ readings key? rest := by
  simp only [readings_eq_filterMap_runs, runs_append_cons (p := isLineBreak) (c := '\n') rfl,
    List.filterMap_append]

/-- What is read of the bytes in front of a line feed and behind it is read of them together. -/
theorem readings_decodeLossy_append (front rest : List UInt8) :
    readings key? (Utf8.decodeLossy (front ++ 10 :: rest)) =
      readings key? (Utf8.decodeLossy front) ++ readings key? (Utf8.decodeLossy rest) := by
  rw [Utf8.decodeLossy_append_newline, readings_append_newline]

/-- Rows are read one by one, even if one of them is not well encoded. -/
theorem readings_decodeLossy_joined (rows : List (List UInt8)) :
    readings key? (Utf8.decodeLossy (joined rows)) =
      rows.flatMap fun row => readings key? (Utf8.decodeLossy row) := by
  induction rows with
  | nil => rfl
  | cons row rows ih =>
      rw [joined, List.flatMap_cons, List.append_assoc, List.singleton_append,
        readings_decodeLossy_append, List.flatMap_cons]
      exact congrArg _ ih

end Readings

/-! ## Entries -/

section Entries

variable {key : String} {n : Nat} {row : List UInt8}

/-- A key, a single space and a number are an entry. -/
theorem isEntry_space (key : String) (n : Nat) :
    IsEntry key n
      (Utf8.encode (String.ofList (key.toList ++ ' ' :: Nat.toDigits 10 n))) := by
  simpa using @IsEntry.intro key n [' '] [] (by simp) (by simp) rfl (by simp [IsLine])

section Line

variable {word gap rest : List Char} (hWord : IsWord word)
  (hGap : ∀ c ∈ gap, c = ' ' ∨ c = '\t')
include hWord hGap

theorem words_entry (hNil : gap ≠ []) (hRest : EndsWord rest) (n : Nat) :
    words (word ++ (gap ++ (Nat.toDigits 10 n ++ rest))) =
      word :: Nat.toDigits 10 n :: words rest := by
  have hBlank : ∀ c ∈ gap, isBlank c := by
    intro c hc
    rcases hGap c hc with rfl | rfl <;> decide
  have hEnds : EndsWord (gap ++ (Nat.toDigits 10 n ++ rest)) := by
    cases gap with
    | nil => exact absurd rfl hNil
    | cons c gap => exact hBlank c (List.mem_cons_self ..)
  rw [words_append hWord hEnds, words_append_blank hBlank, words_append (isWord_toDigits n) hRest]

theorem isLine_entry (hLine : IsLine rest) (n : Nat) :
    IsLine (word ++ (gap ++ (Nat.toDigits 10 n ++ rest))) := by
  simp only [IsLine, List.mem_append]
  rintro c (hc | hc | hc | hc)
  · exact hWord.isLine c hc
  · rcases hGap c hc with rfl | rfl <;> decide
  · exact (isWord_toDigits n).isLine c hc
  · exact hLine c hc

end Line

/-- A line gives what it was made to give, to a reader that knows its key. -/
theorem readings_of_isEntry {κ : Type} (key? : List Char → Option κ) (hKey : IsWord key.toList)
    (hn : n < 10 ^ maxDecimalDigits) (h : IsEntry key n row) :
    readings key? (Utf8.decodeLossy row) = (key? key.toList).toList.map (·, (n : Int)) := by
  obtain ⟨hNil, hGap, hRest, hLine⟩ := h
  have hSome := List.append_ne_nil_of_left_ne_nil hKey.ne_nil
  rw [Utf8.decodeLossy_encode, readings_of_isLine key? (hSome _) (isLine_entry hKey hGap hLine n),
    reading?, words_entry hKey hGap hNil hRest n]
  dsimp only
  rw [integer?_toDigits hn]
  cases key? key.toList <;> rfl

/-- Bytes that are silent of all spellings give none of the keys. -/
theorem readings_of_isSilent {κ : Type} {all : List κ} {spelling : κ → String}
    (h : IsSilent (all.map spelling) row) :
    readings (keyOf? all spelling) (Utf8.decodeLossy row) = [] := by
  refine List.filterMap_eq_nil_iff.mpr fun line hLine => ?_
  cases hWords : words line with
  | nil => simp [reading?, hWords]
  | cons word others =>
      have hUnknown : keyOf? all spelling word = none := by
        refine List.find?_eq_none.mpr fun k hk hSpelling => ?_
        refine h line hLine (spelling k) (List.mem_map_of_mem hk) ?_
        rw [hWords, List.head?_cons, of_decide_eq_true hSpelling]
      cases others <;> simp [reading?, hWords, hUnknown]

end Entries

/-! ## The last value -/

section Last

variable {κ : Type} [DecidableEq κ] {k : κ} {all : List (κ × Int)}

/-- What comes later counts, if it gives the key at all. -/
theorem last?_append (front back : List (κ × Int)) :
    last? k (front ++ back) = (last? k back).or (last? k front) := by
  simp only [last?, List.filter_append, List.getLast?_append, Option.map_or]

theorem last?_singleton (reading : κ × Int) (k : κ) :
    last? k [reading] = if k = reading.1 then some reading.2 else none := by
  by_cases h : k = reading.1
  · simp [last?, h]
  · simp [last?, h, Ne.symm h]

theorem last?_cons (reading : κ × Int) (rest : List (κ × Int)) (k : κ) :
    last? k (reading :: rest) =
      (last? k rest).or (if k = reading.1 then some reading.2 else none) := by
  rw [← last?_singleton]
  exact last?_append [reading] rest

/-- Two values for different keys do not depend on which of them comes first. -/
theorem last?_swap {first second : κ × Int} (h : first.1 ≠ second.1) (rest : List (κ × Int)) :
    last? k (second :: first :: rest) = last? k (first :: second :: rest) := by
  simp only [last?_cons]
  by_cases hFirst : k = first.1
  · have hSecond : k ≠ second.1 := hFirst ▸ h
    simp [hSecond]
  · simp [hFirst]

/-- A reading that is added decides on its own key and leaves all others. -/
theorem last?_append_singleton (all : List (κ × Int)) (reading : κ × Int) (k : κ) :
    last? k (all ++ [reading]) = if k = reading.1 then some reading.2 else last? k all := by
  rw [last?_append, last?_singleton]
  split <;> rfl

theorem last?_eq_none (h : ∀ v, (k, v) ∉ all) : last? k all = none := by
  have hNone : all.filter (fun reading => reading.1 = k) = [] := by
    refine List.filter_eq_nil_iff.mpr fun reading hReading hKey => h reading.2 ?_
    rw [← of_decide_eq_true hKey]
    exact hReading
  simp [last?, hNone]

theorem isSome_last?_iff : (last? k all).isSome ↔ ∃ n, (k, n) ∈ all := by
  constructor
  · intro h
    by_contra hNone
    rw [last?_eq_none (not_exists.mp hNone)] at h
    cases h
  · rintro ⟨n, hMem⟩
    rw [last?, Option.isSome_map, List.getLast?_isSome]
    exact List.ne_nil_of_mem (List.mem_filter.mpr ⟨hMem, decide_eq_true rfl⟩)

/-- A key has a value just if some line gives one. -/
theorem isSome_last?_readings_iff {all : List κ} {spelling : κ → String}
    (hKey : ∀ k, keyOf? all spelling (spelling k).toList = some k) {text : List Char} :
    (last? k (readings (keyOf? all spelling) text)).isSome ↔
      ∃ line ∈ lines text, ∃ n, Gives (spelling k).toList n line := by
  rw [isSome_last?_iff]
  simp only [mem_readings_keyOf? hKey]
  constructor
  · rintro ⟨n, line, hLine, hGiven⟩
    exact ⟨line, hLine, n, hGiven⟩
  · rintro ⟨line, hLine, n, hGiven⟩
    exact ⟨n, line, hLine, hGiven⟩

/-- A line that gives a number gives the last one if nothing follows. -/
theorem IsLast.append_given {gives : Int → List Char → Prop} {line : List Char} {n : Int}
    (h : gives n line) (front : List (List Char)) : IsLast gives (front ++ [line]) (some n) :=
  .given rfl h (by simp)

/-- A line that gives nothing leaves the number of those in front of it. -/
theorem IsLast.append_idle {gives : Int → List Char → Prop} {line : List Char}
    {all : List (List Char)} {last : Option Int} (h : IsLast gives all last)
    (hIdle : ∀ n, ¬ gives n line) : IsLast gives (all ++ [line]) last := by
  have hLine : ∀ other ∈ [line], ∀ n, ¬ gives n other := by simpa using hIdle
  cases h with
  | @given front back found n hLines hGiven hLater =>
      have hSplit : all ++ [line] = front ++ found :: (back ++ [line]) := by simp [hLines]
      exact .given hSplit hGiven (List.forall_mem_append.mpr ⟨hLater, hLine⟩)
  | missing hNone => exact .missing (List.forall_mem_append.mpr ⟨hNone, hLine⟩)

/-- However many lines have been read, the value of a key is the one in the last line that gives
one. -/
theorem isLast_readings (key? : List Char → Option κ) (text : List Char) (k : κ) :
    IsLast (fun n line => reading? key? line = some (k, n)) (lines text)
      (last? k (readings key? text)) := by
  rw [readings]
  induction lines text using List.reverseRecOn with
  | nil => exact .missing (by simp)
  | append_singleton all line ih =>
      rw [List.filterMap_append]
      cases hLine : reading? key? line with
      | none => simpa [hLine] using ih.append_idle (by simp [hLine])
      | some reading =>
          obtain ⟨key, n⟩ := reading
          rw [List.filterMap_cons_some hLine, List.filterMap_nil, last?_append_singleton]
          by_cases hKey : k = key
          · subst hKey
            rw [if_pos rfl]
            exact IsLast.append_given hLine all
          · rw [if_neg hKey]
            exact ih.append_idle (by simp [hLine, Ne.symm hKey])

/-- A key that is given one value only, however often, has this value. -/
theorem last?_eq_some {v : Int} (hMem : (k, v) ∈ all) (h : ∀ w, (k, w) ∈ all → w = v) :
    last? k all = some v := by
  induction all using List.reverseRecOn with
  | nil => exact absurd hMem List.not_mem_nil
  | append_singleton all reading ih =>
      rw [last?_append_singleton]
      by_cases hk : k = reading.1
      · rw [if_pos hk, h reading.2 (by simp [hk])]
      · rw [if_neg hk]
        have hFront : (k, v) ∈ all := by
          rcases List.mem_append.mp hMem with hMem | hMem
          · exact hMem
          · exact absurd (congrArg Prod.fst (List.mem_singleton.mp hMem)) hk
        exact ih hFront fun w hw => h w (List.mem_append_left _ hw)

end Last

section IsDump

variable {κ : Type} {all : List κ} {spelling : κ → String}
  (hKey : ∀ k, keyOf? all spelling (spelling k).toList = some k)
  (hWord : ∀ k, IsWord (spelling k).toList)
include hKey hWord

/-- Of a dump nothing is read but the number of each key that has one. -/
theorem mem_readings_of_isDump {number : String → Option UInt64} {rows : List (List UInt8)}
    (h : IsDump (all.map spelling) number rows) {k : κ} {v : Int} :
    (k, v) ∈ readings (keyOf? all spelling) (Utf8.decodeLossy (joined rows)) ↔
      ∃ n, number (spelling k) = some n ∧ v = n.toNat := by
  have hEntry {k : κ} {n : UInt64} {row : List UInt8} (hRow : IsEntry (spelling k) n.toNat row) :
      readings (keyOf? all spelling) (Utf8.decodeLossy row) = [(k, (n.toNat : Int))] := by
    rw [readings_of_isEntry _ (hWord k) (toNat_lt_of_maxDecimalDigits n) hRow, hKey]
    rfl
  rw [readings_decodeLossy_joined, List.mem_flatMap]
  constructor
  · rintro ⟨row, hRow, hReading⟩
    rcases h.row row hRow with ⟨key, hAll, n, hNumber, hRow⟩ | hSilent
    · obtain ⟨other, -, rfl⟩ := List.mem_map.mp hAll
      rw [hEntry hRow, List.mem_singleton] at hReading
      cases hReading
      exact ⟨n, hNumber, rfl⟩
    · rw [readings_of_isSilent hSilent] at hReading
      cases hReading
  · rintro ⟨n, hNumber, rfl⟩
    have hSpelled : spelling k ∈ all.map spelling :=
      List.mem_map_of_mem (List.mem_of_find?_eq_some (hKey k))
    obtain ⟨row, hRow, hGiven⟩ := h.complete _ hSpelled n hNumber
    exact ⟨row, hRow, by simp [hEntry hGiven]⟩

/-- The last number for a key is the one that a dump was written with. -/
theorem last?_of_isDump [DecidableEq κ] {number : String → Option UInt64}
    {rows : List (List UInt8)} (h : IsDump (all.map spelling) number rows) (k : κ) :
    last? k (readings (keyOf? all spelling) (Utf8.decodeLossy (joined rows))) =
      (number (spelling k)).map fun n => (n.toNat : Int) := by
  cases hNumber : number (spelling k) with
  | none =>
      refine last?_eq_none fun v hv => ?_
      obtain ⟨n, hSome, -⟩ := (mem_readings_of_isDump hKey hWord h).mp hv
      simp [hNumber] at hSome
  | some n =>
      have hMem {v : Int} := @mem_readings_of_isDump κ all spelling hKey hWord number rows h k v
      refine last?_eq_some (hMem.mpr ⟨n, hNumber, rfl⟩) fun w hw => ?_
      obtain ⟨m, hm, rfl⟩ := hMem.mp hw
      simp_all

end IsDump

end PodGauges.Dump
