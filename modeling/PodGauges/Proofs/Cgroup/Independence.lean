import Mathlib
import PodGauges.Proofs.Cgroup.Files

/-! How far the files of a control group are independent. Each leaves the fields of the others as
they are, and a line or a value that is malformed leaves its own field unset. What breaks this is
a time, or a quota over its period, that is beyond the doubles: it takes all fields with it. -/
namespace PodGauges.Cgroup

open File Number Text

/-- A number that no double holds, in a file where a number is divided. -/
inductive TooLarge (t : Tree) (root : Path) : Prop where
  | time {text line : List Char} {key : String} {n : Int}
      (hText : text? t root "cpu.stat" = some text) (hLine : line ∈ lines text)
      (hKey : key ∈ ["usage_usec", "user_usec", "system_usec", "throttled_usec"])
      (hGiven : Dump.Gives key.toList n line) (hLarge : firstTooLarge * 1000000 ≤ n.natAbs)
  | bandwidth {text : List Char} {quota period : Int}
      (hText : text? t root "cpu.max" = some text) (hGiven : GivesQuota text quota period)
      (hLarge : firstTooLarge * period.toNat ≤ quota.natAbs)

/-- Two trees with the same files for a control group, but for one of them, which may be there or
not and may say anything. -/
structure AgreeBut (file : String) (t t' : Tree) (root : Path) : Prop where
  directory : t'.isDirectory root = t.isDirectory root
  others : ∀ name ∈ fileNames, name ≠ file → t'.read (root.child name) = t.read (root.child name)

/-- Two snapshots with the same fields, but for those of one file. -/
structure SameBut (file : String) (s s' : Snapshot) : Prop where
  stat : file ≠ "cpu.stat" → s'.cpu.stat = s.cpu.stat
  limit : file ≠ "cpu.max" → s'.cpu.limit = s.cpu.limit
  amount : ∀ amount : MemoryAmount, file ≠ "memory." ++ amount.name →
    s'.memory.amount amount = s.memory.amount amount
  events : file ≠ "memory.events" → s'.memory.events = s.memory.events

/-- A line without a key and an integer behind it. -/
def IsMalformed (line : List Char) : Prop := ∀ key n, ¬ Dump.Gives key n line

/-- Two texts, the second of which is the first without a line that is malformed. -/
def LosesMalformedLine (text text' : List Char) : Prop :=
  ∃ front line back, lines text = front ++ line :: back ∧ lines text' = front ++ back ∧
    IsMalformed line

/-- A text that is, white space aside, an integer or the word for no limit. -/
def IsAmount (text : List Char) : Prop :=
  trim text = Limit.unlimitedWord ∨ ∃ n, integer? (trim text) = some n

/-- Each field is set just if its own file has a well-formed value for it. -/
structure IsSetByOwnFile (t : Tree) (root : Path) (s : Snapshot) : Prop where
  stat : ∀ stat, (s.cpu.stat stat).isSome ↔ ∃ text, text? t root "cpu.stat" = some text ∧
    ∃ line ∈ lines text, ∃ n, Dump.Gives stat.key.toList n line
  limit : s.cpu.limit.isSome ↔ ∃ text, text? t root "cpu.max" = some text ∧
    (IsUnlimited text ∨ ∃ quota period, GivesQuota text quota period)
  amount : ∀ amount, (s.memory.amount amount).isSome ↔
    ∃ text, text? t root ("memory." ++ amount.name) = some text ∧ IsAmount text
  events : ∀ key, key ∈ s.memory.events.map (·.1) ↔
    ∃ text, text? t root "memory.events" = some text ∧
      ∃ line ∈ lines text, ∃ n, Dump.Gives key.toList n line

/-! ## When a directory can be read -/

section Existence

variable {t : Tree} {root : Path}

theorem isTime_iff {stat : CpuStat} : stat.isTime ↔
    stat.key ∈ ["usage_usec", "user_usec", "system_usec", "throttled_usec"] := by
  cases stat <;> decide

theorem exists_statOf_iff {text : Option (List Char)} : (∃ table, statOf text = .ok table) ↔
    ∀ content, text = some content → ∀ line ∈ lines content, ∀ (stat : CpuStat) n, stat.isTime →
      Dump.Gives stat.key.toList n line → n.natAbs < firstTooLarge * 1000000 := by
  cases text with
  | none => exact iff_of_true ⟨[], rfl⟩ fun _ h => nomatch h
  | some content =>
      have hScale : CpuStat.microsecondsPerSecond = 1000000 := rfl
      simp only [statOf, Option.map_some, Option.getD_some, CpuStat.exists_ofText_iff,
        Option.some.injEq, forall_eq', CpuStat.readings,
        Dump.mem_readings_keyOf? CpuStat.keyOf?_key, hScale]
      constructor
      · intro h line hLine stat n hTime hGiven
        exact h stat n ⟨line, hLine, hGiven⟩ hTime
      · rintro h stat n ⟨line, hLine, hGiven⟩ hTime
        exact h line hLine stat n hTime hGiven

/-- The limit can be told just if the file gives no quota that is too large. -/
theorem exists_bandwidthOf_iff {text : Option (List Char)} :
    (∃ limit, bandwidthOf text = .ok limit) ↔
      ∀ content, text = some content → ∀ quota period, GivesQuota content quota period →
        quota.natAbs < firstTooLarge * period.toNat := by
  cases text with
  | none => exact iff_of_true ⟨none, rfl⟩ fun _ h => nomatch h
  | some content =>
      simp only [bandwidthOf, Option.map_some, Option.getD_some, exists_bandwidth?_iff,
        Option.some.injEq, forall_eq']

/-- A group that is there is read just if both parts of the processor are. -/
theorem exists_read_iff_exists (hRoot : t.isDirectory root = .ok true) :
    (∃ s, read t root = .ok s) ↔ (∃ table, statOf (text? t root "cpu.stat") = .ok table) ∧
      ∃ limit, bandwidthOf (text? t root "cpu.max") = .ok limit := by
  simp only [read_eq_ok, readCpu_eq_ok, hRoot, true_and]
  constructor
  · rintro ⟨s, ⟨⟨table, hTable, -⟩, hLimit⟩, -⟩
    exact ⟨⟨table, hTable⟩, _, hLimit⟩
  · rintro ⟨⟨table, hTable⟩, limit, hLimit⟩
    exact ⟨⟨⟨fun stat => table.get? stat, limit⟩, readMemory t root⟩,
      ⟨⟨table, hTable, rfl⟩, hLimit⟩, rfl⟩

/-- A directory can be read unless one of its files has a number that is too large. -/
theorem exists_read_iff (hRoot : t.isDirectory root = .ok true) :
    (∃ s, read t root = .ok s) ↔ ¬ TooLarge t root := by
  rw [exists_read_iff_exists hRoot, exists_statOf_iff, exists_bandwidthOf_iff]
  constructor
  · rintro ⟨hTimes, hQuota⟩ hLarge
    cases hLarge with
    | @time text line key n hText hLine hKey hGiven hLarge =>
        obtain ⟨stat, hTime, rfl⟩ : ∃ stat : CpuStat, stat.isTime ∧ stat.key = key := by
          simp only [List.mem_cons, List.not_mem_nil, or_false] at hKey
          rcases hKey with rfl | rfl | rfl | rfl
          · exact ⟨.usage, rfl, rfl⟩
          · exact ⟨.user, rfl, rfl⟩
          · exact ⟨.system, rfl, rfl⟩
          · exact ⟨.throttled, rfl, rfl⟩
        exact absurd hLarge (Nat.not_le.mpr (hTimes text hText line hLine stat n hTime hGiven))
    | @bandwidth text quota period hText hGiven hLarge =>
        exact absurd hLarge (Nat.not_le.mpr (hQuota text hText quota period hGiven))
  · intro hSmall
    constructor
    · intro text hText line hLine stat n hTime hGiven
      exact Nat.not_le.mp fun hLarge =>
        hSmall (.time hText hLine (isTime_iff.mp hTime) hGiven hLarge)
    · intro text hText quota period hGiven
      exact Nat.not_le.mp fun hLarge => hSmall (.bandwidth hText hGiven hLarge)

end Existence

/-! ## Which fields are set -/

section Fields

variable {t : Tree} {root : Path}

/-- A key is in the table just if some line of the file gives it a number. -/
theorem isSome_stat_iff {text : Option (List Char)} {table : Keyed CpuStat Quantity}
    (h : statOf text = .ok table) (stat : CpuStat) : (table.get? stat).isSome ↔
      ∃ content, text = some content ∧
        ∃ line ∈ lines content, ∃ n, Dump.Gives stat.key.toList n line := by
  cases text with
  | none =>
      cases h
      simp [Keyed.get?]
  | some content =>
      have hSome : (table.get? stat).isSome =
          (Dump.last? stat (CpuStat.readings content)).isSome := by
        simpa using congrArg Option.isSome (CpuStat.get?_of_ofText h stat).symm
      rw [hSome, CpuStat.readings, Dump.isSome_last?_readings_iff CpuStat.keyOf?_key]
      simp

/-- There is a limit just if the text says so, with a quota or without. -/
theorem isSome_bandwidth?_iff {text : List Char} {limit : Option Limit}
    (h : bandwidth? text = .ok limit) :
    limit.isSome ↔ IsUnlimited text ∨ ∃ quota period, GivesQuota text quota period := by
  by_cases hUnlimited : IsUnlimited text
  · rw [bandwidth?_of_isUnlimited hUnlimited] at h
    cases h
    exact iff_of_true rfl (.inl hUnlimited)
  · by_cases hQuota : ∃ quota period, GivesQuota text quota period
    · obtain ⟨quota, period, hGiven⟩ := hQuota
      rw [bandwidth?_of_givesQuota hGiven] at h
      obtain ⟨cores, -, rfl⟩ := map_eq_ok.mp h
      exact iff_of_true rfl (.inr ⟨quota, period, hGiven⟩)
    · rw [bandwidth?_of_malformed hUnlimited fun quota period h => hQuota ⟨_, _, h⟩] at h
      cases h
      exact iff_of_false (by simp) (not_or.mpr ⟨hUnlimited, hQuota⟩)

theorem isSome_bandwidthOf_iff {text : Option (List Char)} {limit : Option Limit}
    (h : bandwidthOf text = .ok limit) : limit.isSome ↔ ∃ content, text = some content ∧
      (IsUnlimited content ∨ ∃ quota period, GivesQuota content quota period) := by
  cases text with
  | none =>
      cases h
      simp
  | some content => simpa using isSome_bandwidth?_iff h

theorem isSome_ofText?_iff {text : List Char} : (Limit.ofText? text).isSome ↔ IsAmount text := by
  unfold Limit.ofText? IsAmount
  split
  · next h => simp [h]
  · next h => simp [h, Option.isSome_iff_exists]

/-- An event is there just if some line gives it a number. -/
theorem mem_memoryEvents_iff {text : List Char} {key : String} :
    key ∈ (memoryEvents text).map (·.1) ↔
      ∃ line ∈ lines text, ∃ n, Dump.Gives key.toList n line := by
  rw [memoryEvents, Keyed.mem_keys_ofPairs, List.mem_map]
  constructor
  · rintro ⟨⟨key, n⟩, hReading, rfl⟩
    obtain ⟨line, hLine, word, hWord, hGiven⟩ := Dump.mem_readings.mp hReading
    cases hWord
    exact ⟨line, hLine, n, by simpa using hGiven⟩
  · rintro ⟨line, hLine, n, hGiven⟩
    exact ⟨(key, n), Dump.mem_readings.mpr ⟨line, hLine, _, by simp, hGiven⟩, rfl⟩

/-- Every field of a group is set by what its own file says, and by that alone. -/
theorem isSetByOwnFile {s : Snapshot} (h : read t root = .ok s) : IsSetByOwnFile t root s := by
  obtain ⟨-, hCpu, hMemory⟩ := read_eq_ok.mp h
  obtain ⟨⟨table, hTable, hStat⟩, hLimit⟩ := readCpu_eq_ok.mp hCpu
  constructor
  · intro stat
    rw [hStat]
    exact isSome_stat_iff hTable stat
  · exact isSome_bandwidthOf_iff hLimit
  · intro amount
    rw [hMemory]
    simp only [readMemory, Option.isSome_bind, Option.any_eq_true, isSome_ofText?_iff]
  · intro key
    rw [hMemory]
    unfold readMemory
    cases hText : text? t root "memory.events" with
    | none => simp
    | some text => simpa using mem_memoryEvents_iff

end Fields

/-! ## Other files -/

section Others

variable {file : String} {t t' : Tree} {root : Path}

theorem AgreeBut.text?_eq (h : AgreeBut file t t' root) {name : String} (hName : name ∈ fileNames)
    (hOther : file ≠ name) : text? t' root name = text? t root name := by
  simp only [text?, Tree.readLossy, h.others name hName hOther.symm]

theorem AgreeBut.amount_eq (h : AgreeBut file t t' root) {amount : MemoryAmount}
    (hOther : file ≠ "memory." ++ amount.name) :
    text? t' root ("memory." ++ amount.name) = text? t root ("memory." ++ amount.name) :=
  h.text?_eq (by cases amount <;> decide) hOther

/-- What a file says goes into no field of another file. -/
theorem AgreeBut.sameBut (h : AgreeBut file t t' root) {s s' : Snapshot}
    (hRead : read t root = .ok s) (hRead' : read t' root = .ok s') : SameBut file s s' := by
  obtain ⟨-, hCpu, hMemory⟩ := read_eq_ok.mp hRead
  obtain ⟨-, hCpu', hMemory'⟩ := read_eq_ok.mp hRead'
  obtain ⟨⟨table, hTable, hStat⟩, hLimit⟩ := readCpu_eq_ok.mp hCpu
  obtain ⟨⟨table', hTable', hStat'⟩, hLimit'⟩ := readCpu_eq_ok.mp hCpu'
  constructor
  · intro hFile
    rw [h.text?_eq (by decide) hFile, hTable] at hTable'
    cases hTable'
    rw [hStat, hStat']
  · intro hFile
    rw [h.text?_eq (by decide) hFile, hLimit] at hLimit'
    exact (Except.ok.inj hLimit').symm
  · intro amount hFile
    rw [hMemory, hMemory']
    simp only [readMemory, h.amount_eq hFile]
  · intro hFile
    rw [hMemory, hMemory']
    simp only [readMemory, h.text?_eq (by decide : "memory.events" ∈ fileNames) hFile]

/-- Where a file is missing there is no number in it that could be too large. -/
theorem AgreeBut.not_tooLarge (h : AgreeBut file t t' root) {error : Errno}
    (hMissing : t'.read (root.child file) = .error error) (hSmall : ¬ TooLarge t root) :
    ¬ TooLarge t' root := by
  have hText {name : String} {text : List Char} (hName : name ∈ fileNames)
      (hSome : text? t' root name = some text) : text? t root name = some text := by
    by_cases hFile : file = name
    · subst hFile
      simp [text?, Tree.readLossy, hMissing, Except.toOption] at hSome
    · rwa [← h.text?_eq hName hFile]
  intro hLarge
  cases hLarge with
  | time hSome hLine hKey hGiven hLarge =>
      exact hSmall (.time (hText (by decide) hSome) hLine hKey hGiven hLarge)
  | bandwidth hSome hGiven hLarge =>
      exact hSmall (.bandwidth (hText (by decide) hSome) hGiven hLarge)

/-- A line that is malformed gives no reading, so that none is lost with it. -/
theorem readings_of_losesMalformedLine {κ : Type} (key? : List Char → Option κ)
    {text text' : List Char} (h : LosesMalformedLine text text') :
    Dump.readings key? text' = Dump.readings key? text := by
  obtain ⟨front, line, back, hLines, hLines', hMalformed⟩ := h
  have hSilent : Dump.reading? key? line = none := by
    refine Option.eq_none_iff_forall_ne_some.mpr fun reading hReading => ?_
    obtain ⟨word, -, hGiven⟩ := Dump.reading?_eq_some.mp hReading
    exact hMalformed word _ hGiven
  simp only [Dump.readings, hLines, hLines', List.filterMap_append,
    List.filterMap_cons_none hSilent]

/-- A group without a malformed line is read as it is with it. -/
theorem AgreeBut.read_eq (h : AgreeBut file t t' root)
    (hFile : file = "cpu.stat" ∨ file = "memory.events") {text text' : List Char}
    (hText : text? t root file = some text) (hText' : text? t' root file = some text')
    (hLoses : LosesMalformedLine text text') : read t' root = read t root := by
  have hAmount (amount : MemoryAmount) :
      text? t' root ("memory." ++ amount.name) = text? t root ("memory." ++ amount.name) :=
    h.amount_eq (by rcases hFile with rfl | rfl <;> cases amount <;> decide)
  rcases hFile with rfl | rfl
  · have hStat : CpuStat.ofText text' = CpuStat.ofText text := by
      simp only [CpuStat.ofText, readings_of_losesMalformedLine _ hLoses]
    simp only [read, readCpu, readMemory, h.directory, hAmount, hText, hText', hStat,
      h.text?_eq (by decide : "cpu.max" ∈ fileNames) (by decide),
      h.text?_eq (by decide : "memory.events" ∈ fileNames) (by decide)]
  · have hEvents : memoryEvents text' = memoryEvents text := by
      simp only [memoryEvents, readings_of_losesMalformedLine _ hLoses]
    simp only [read, readCpu, readMemory, h.directory, hAmount, hText, hText', hEvents,
      h.text?_eq (by decide : "cpu.stat" ∈ fileNames) (by decide),
      h.text?_eq (by decide : "cpu.max" ∈ fileNames) (by decide)]

end Others

/-- A control group whose directory is there can be read unless one of its files has a number that
is too large. Then each field is set just if its own file has a well-formed value for it. Whatever
becomes of one file, the fields of the others stay as they are; where it goes missing, the group can
still be read, and where a malformed line goes from it, all fields are the same. -/
theorem read_independent {t : Tree} {root : Path} (hRoot : t.isDirectory root = .ok true) :
    ((∃ s, read t root = .ok s) ↔ ¬ TooLarge t root) ∧
    (∀ s, read t root = .ok s → IsSetByOwnFile t root s) ∧
    ∀ file t', AgreeBut file t t' root →
      (∀ s s', read t root = .ok s → read t' root = .ok s' → SameBut file s s') ∧
      (∀ error, t'.read (root.child file) = .error error → (∃ s, read t root = .ok s) →
        ∃ s', read t' root = .ok s') ∧
      (file = "cpu.stat" ∨ file = "memory.events" → ∀ text text', text? t root file = some text →
        text? t' root file = some text' → LosesMalformedLine text text' →
          read t' root = read t root) := by
  refine ⟨exists_read_iff hRoot, fun s h => isSetByOwnFile h, fun file t' h => ⟨?_, ?_, ?_⟩⟩
  · intro s s' hRead hRead'
    exact h.sameBut hRead hRead'
  · intro error hMissing hRead
    have hSmall := h.not_tooLarge hMissing ((exists_read_iff hRoot).mp hRead)
    exact (exists_read_iff (h.directory.trans hRoot)).mpr hSmall
  · intro hFile text text' hText hText' hLoses
    exact h.read_eq hFile hText hText' hLoses

/-- A directory with some files, of which only the names and what they hold are given. -/
def groupOf (files : List (String × List Char)) : Tree :=
  ⟨(["cgroup"], .directory) :: files.map fun (name, content) =>
    (["cgroup", name], .file (Utf8.asciiBytes content))⟩

/-- A group with a torn line for one of its times. -/
def tornGroup : Tree :=
  groupOf [("cpu.stat", "usage_usec 1500000\nuser_usec to".toList),
    ("memory.current", "5\n".toList)]

/-- A torn line takes the number under its own key away, and no other one. -/
theorem read_independent_of_tornGroup :
    tornGroup.isDirectory ⟨.root, ["cgroup"]⟩ = .ok true ∧
    ¬ TooLarge tornGroup ⟨.root, ["cgroup"]⟩ ∧
    ∃ s, read tornGroup ⟨.root, ["cgroup"]⟩ = .ok s ∧ (s.cpu.stat .usage).isSome ∧
      (s.cpu.stat .user).isNone ∧ IsSetByOwnFile tornGroup ⟨.root, ["cgroup"]⟩ s := by
  have hRoot : tornGroup.isDirectory ⟨.root, ["cgroup"]⟩ = .ok true := by decide +kernel
  have hSome : (read tornGroup ⟨.root, ["cgroup"]⟩).toOption.any fun s =>
    (s.cpu.stat .usage).isSome && (s.cpu.stat .user).isNone := by decide +kernel
  obtain ⟨hExists, hSet, -⟩ := read_independent hRoot
  cases hRead : read tornGroup ⟨.root, ["cgroup"]⟩ with
  | error error => simp [hRead, Except.toOption] at hSome
  | ok s =>
      have hTorn : (s.cpu.stat .usage).isSome ∧ (s.cpu.stat .user).isNone := by
        simpa [hRead, Except.toOption] using hSome
      exact ⟨hRoot, hExists.mp ⟨s, hRead⟩, s, rfl, hTorn.1, hTorn.2, hSet s hRead⟩

/-- A group with a time that no double holds, a one and four hundred zeros. -/
def overlargeTime : Tree :=
  groupOf [("cpu.stat", "usage_usec 1".toList ++ List.replicate 400 '0'),
    ("memory.current", "5\n".toList)]

/-- With the file of the times all other fields are lost, and without it they are there. -/
theorem read_lost_to_overlargeTime :
    overlargeTime.isDirectory ⟨.root, ["cgroup"]⟩ = .ok true ∧
    (read overlargeTime ⟨.root, ["cgroup"]⟩).toOption.isNone ∧
    (read (groupOf [("memory.current", "5\n".toList)]) ⟨.root, ["cgroup"]⟩).toOption.any fun s =>
      (s.memory.amount .current).isSome :=
  ⟨by decide +kernel, by decide +kernel, by decide +kernel⟩

end PodGauges.Cgroup
