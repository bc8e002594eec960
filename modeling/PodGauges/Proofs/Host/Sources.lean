import Mathlib
import PodGauges.Host.Snapshot
import PodGauges.Proofs.Dump
import PodGauges.Proofs.Except
import PodGauges.Proofs.Number.Positive

/-! The two files that tell of the host. Neither has a say in what is told by the other, and each
that cannot be used is logged once. A tick rate beyond the doubles is the one thing that keeps the
host from being sampled, and only if there are ticks to be divided by it. -/
namespace PodGauges.Host

open File Number Text

/-! ## The aggregate line -/

/-- The first line of a text that begins as the aggregate line does. The mark ends in a blank, where
the lines of single processors have a number. -/
def IsAggregateLine (text line : List Char) : Prop :=
  ∃ front back, lines text = front ++ line :: back ∧ aggregateMark <+: line ∧
    ∀ other ∈ front, ¬ aggregateMark <+: other

section Text

variable {text line : List Char} {columns : List (List Char)}

/-- The line that is taken is the first one with the mark. -/
theorem find?_aggregateMark :
    (lines text).find? aggregateMark.isPrefixOf = some line ↔ IsAggregateLine text line := by
  simp only [List.find?_eq_some_iff_append, Bool.not_eq_true', Bool.eq_false_iff, ne_eq,
    List.isPrefixOf_iff_prefix, IsAggregateLine]
  constructor
  · rintro ⟨hMark, front, back, hLines, hFront⟩
    exact ⟨front, back, hLines, hMark, hFront⟩
  · rintro ⟨front, back, hLines, hMark, hFront⟩
    exact ⟨hMark, front, back, hLines, hFront⟩

/-- The columns are the words behind the mark of that line. -/
theorem aggregateColumns?_eq_some : aggregateColumns? text = some columns ↔
    ∃ line, IsAggregateLine text line ∧ (words line).tail = columns := by
  simp only [aggregateColumns?, Option.map_eq_some_iff, find?_aggregateMark]

/-- There are no columns just if no line has the mark. -/
theorem aggregateColumns?_eq_none : aggregateColumns? text = none ↔
    ∀ line ∈ lines text, ¬ aggregateMark <+: line := by
  simp [aggregateColumns?]

theorem exists_isAggregateLine_iff : (∃ line, IsAggregateLine text line) ↔
    ∃ line ∈ lines text, aggregateMark <+: line := by
  simp only [← find?_aggregateMark, ← Option.isSome_iff_exists, List.find?_isSome,
    List.isPrefixOf_iff_prefix]

/-- The ticks of a mode over a divisor: none where the word is missing or no real number. -/
theorem ticksIn_tail_div {divisor : Float} (hZero : 0.0 / divisor = 0.0) (line : List Char)
    (mode : CpuMode) : ticksIn (words line).tail mode / divisor =
      ((words line)[mode.column + 1]?.bind real?).elim 0.0 (· / divisor) := by
  rw [ticksIn, List.getElem?_tail]
  cases (words line)[mode.column + 1]?.bind real? with
  | none => exact hZero
  | some ticks => rfl

end Text

/-! ## The amounts of memory -/

/-- A line that gives a number for an amount of memory, with any colons behind the key. -/
def GivesAmount (amount : MemoryAmount) (n : Int) (line : List Char) : Prop :=
  ∃ word, dropEnd (· == ':') word = amount.key.toList ∧ Dump.Gives word n line

/-- The number that the last such line gives, or zero if there is none. -/
def IsAmount (text : List Char) (amount : MemoryAmount) (n : Int) : Prop :=
  (∃ front line back, lines text = front ++ line :: back ∧ GivesAmount amount n line ∧
    ∀ later ∈ back, ∀ m, ¬ GivesAmount amount m later) ∨
  n = 0 ∧ ∀ line ∈ lines text, ∀ m, ¬ GivesAmount amount m line

section Memory

variable {text line word : List Char} {amount : MemoryAmount} {n : Int}

/-- A word stands for an amount just if it is its key, with or without colons. -/
theorem MemoryAmount.ofWord?_eq_some : MemoryAmount.ofWord? word = some amount ↔
    dropEnd (· == ':') word = amount.key.toList := by
  have hKey (amount : MemoryAmount) :
      Dump.keyOf? all key amount.key.toList = some amount := by cases amount <;> decide
  constructor
  · intro h
    have hSpelled : amount.key.toList = dropEnd (· == ':') word := by simpa using List.find?_some h
    exact hSpelled.symm
  · intro h
    rw [MemoryAmount.ofWord?, h]
    exact hKey amount

theorem reading?_eq_some : Dump.reading? MemoryAmount.ofWord? line = some (amount, n) ↔
    GivesAmount amount n line := by
  simp only [Dump.reading?_eq_some, MemoryAmount.ofWord?_eq_some, GivesAmount]

/-- An amount is told in kibibytes and shown in bytes. -/
theorem memoryBytes_spec (text : List Char) (amount : MemoryAmount) :
    ∃ n, memoryBytes text amount = 1024 * n ∧ IsAmount text amount n := by
  refine ⟨(Dump.last? amount (Dump.readings MemoryAmount.ofWord? text)).getD 0, Int.mul_comm .., ?_⟩
  have hLast := Dump.isLast_readings MemoryAmount.ofWord? text amount
  simp only [reading?_eq_some] at hLast
  generalize Dump.last? amount (Dump.readings MemoryAmount.ofWord? text) = last at hLast ⊢
  cases hLast with
  | given hLines hGiven hLater => exact .inl ⟨_, _, _, hLines, hGiven, hLater⟩
  | missing hNone => exact .inr ⟨rfl, hNone⟩

end Memory

/-! ## The tick rate -/

section TickRate

variable {rate : Int} (hRate : 0 < rate)
include hRate

/-- A rate in the range of the doubles is a divisor, by which zero stays zero. -/
theorem tickRate_of_lt (hSmall : rate < firstTooLarge) :
    ∃ divisor, realOfInteger rate = .ok divisor ∧ tickRate rate = .ok divisor ∧
      0.0 / divisor = 0.0 := by
  have hAbs : rate.natAbs < firstTooLarge := by omega
  obtain ⟨divisor, hDivisor⟩ := exists_realOfInteger_iff.mpr hAbs
  obtain ⟨_, _, _, hParts⟩ := parts_realOfInteger hRate hDivisor
  refine ⟨divisor, hDivisor, ?_, zero_div_of_positive hParts⟩
  simp [tickRate, hDivisor, not_equal_zero_of_positive hParts]

/-- A rate beyond the doubles is no rate at all. -/
theorem tickRate_of_le (hLarge : firstTooLarge ≤ rate) :
    tickRate rate = .error (.range .integerTooLarge) := by
  rw [tickRate, realOfInteger_eq_error (by omega)]

end TickRate

/-! ## The sources -/

inductive Source where
  | stat
  | meminfo
  deriving DecidableEq, Repr

namespace Source

def path (root : Path) : Source → Path
  | .stat => root.child "stat"
  | .meminfo => root.child "meminfo"

/-- What is said to have failed where a source cannot be used. -/
def activity : Source → String
  | .stat => "reading host cpu times failed"
  | .meminfo => "reading host memory failed"

/-- What is wrong with a source, if it cannot be used: it is unreadable, or it should have an
aggregate line and has none. -/
def fault? (t : Tree) (root : Path) (source : Source) : Option String :=
  match t.readLossy (source.path root) with
  | .error error => some error.message
  | .ok text =>
    if source = .stat ∧ ∀ line ∈ lines text, ¬ aggregateMark <+: line then
      some CpuError.noAggregateLine.message
    else none

/-- The record of what is wrong with a source. -/
def record (root : Path) (source : Source) (fault : String) : Log.Record :=
  ⟨.error, .host,
    Log.failureMessage source.activity fault none [("path", (source.path root).toString)]⟩

/-- One record for each source that cannot be used. -/
def records (t : Tree) (root : Path) : List Log.Record :=
  [stat, meminfo].filterMap fun source => (source.fault? t root).map (source.record root)

/-- There is a record for each of the two files that cannot be used, the processor first. -/
theorem records_eq (t : Tree) (root : Path) : records t root =
    ((stat.fault? t root).map (stat.record root)).toList ++
      ((meminfo.fault? t root).map (meminfo.record root)).toList := by
  unfold records
  cases hStat : stat.fault? t root <;> cases hMeminfo : meminfo.fault? t root <;>
    simp [hStat, hMeminfo]

section Faults

variable {t : Tree} {root : Path} {source : Source} {error : IoError} {text : List Char}

theorem fault?_of_error (h : t.readLossy (source.path root) = .error error) :
    source.fault? t root = some error.message := by
  rw [fault?, h]

/-- A file of memory that can be read is never at fault, whatever is in it. -/
theorem fault?_meminfo_of_ok (h : t.readLossy (root.child "meminfo") = .ok text) :
    meminfo.fault? t root = none := by
  simp [fault?, path, h]

/-- The file for processor times can be used if it can be read and has an aggregate line. -/
theorem fault?_stat_eq_none : stat.fault? t root = none ↔
    ∃ text line, t.readLossy (root.child "stat") = .ok text ∧ IsAggregateLine text line := by
  cases hText : t.readLossy (root.child "stat") with
  | error error => simp [fault?, path, hText]
  | ok text => simp [fault?, path, hText, exists_isAggregateLine_iff]

end Faults

end Source

/-! ## Sampling -/

section Sampling

variable {t : Tree} {root : Path} {rate : Int} {text line : List Char}

/-- The time in each mode is told by its column of the line. -/
theorem cpuSeconds_of_line (h : IsAggregateLine text line) (rate : Int) :
    cpuSeconds text rate = (tickRate rate).map fun divisor mode =>
      ticksIn (words line).tail mode / divisor := by
  rw [cpuSeconds, aggregateColumns?_eq_some.mpr ⟨line, h, rfl⟩]
  cases tickRate rate <;> rfl

/-- A line with the mark is all that it takes, and nothing is complained about. -/
theorem readCpu_of_line (hText : t.readLossy (root.child "stat") = .ok text)
    (hLine : IsAggregateLine text line) {divisor : Float} (hRate : tickRate rate = .ok divisor) :
    readCpu t root rate =
      .ok (some fun mode => ticksIn (words line).tail mode / divisor, []) := by
  simp only [readCpu, hText, cpuSeconds_of_line hLine, hRate, Except.map]

/-- With a line to divide, a rate beyond the doubles is an error. -/
theorem readCpu_of_overlargeRate (hText : t.readLossy (root.child "stat") = .ok text)
    (hLine : IsAggregateLine text line) {error : RangeError}
    (hRate : tickRate rate = .error (.range error)) :
    readCpu t root rate = .error (.range error) := by
  simp only [readCpu, hText, cpuSeconds_of_line hLine, hRate, Except.map]

/-- A file of the processor at fault leaves the times out and is complained about once. -/
theorem readCpu_of_fault {fault : String} (h : Source.stat.fault? t root = some fault) :
    readCpu t root rate = .ok (none, [Source.stat.record root fault]) := by
  cases hText : t.readLossy (root.child "stat") with
  | error error =>
      cases (Source.fault?_of_error hText).symm.trans h
      simp only [readCpu, hText]
      rfl
  | ok text =>
      have hNone : ∀ line ∈ lines text, ¬ aggregateMark <+: line := by
        by_contra hSome
        rw [Source.fault?, Source.path, hText] at h
        simp [hSome] at h
      simp only [Source.fault?, Source.path, hText, true_and, if_pos hNone] at h
      cases h
      have hSeconds : cpuSeconds text rate = .error .noAggregateLine := by
        rw [cpuSeconds, aggregateColumns?_eq_none.mpr hNone]
        rfl
      simp only [readCpu, hText, hSeconds]
      rfl

theorem readMemory_of_ok (hText : t.readLossy (root.child "meminfo") = .ok text) :
    readMemory t root = (fun amount => some (memoryBytes text amount), []) := by
  simp only [readMemory, hText]

theorem readMemory_of_error {error : IoError}
    (hText : t.readLossy (root.child "meminfo") = .error error) :
    readMemory t root = (fun _ => none, [Source.meminfo.record root error.message]) := by
  simp only [readMemory, hText]
  rfl

end Sampling

/-- What a host's processor times are when they are divided by a rate: there are any just if the
file can be read and has an aggregate line, and then the ticks of each mode are in the word at its
place behind the mark. A word that is missing, or is no real number, stands for none. -/
structure TellsTimes (t : Tree) (root : Path) (rate : Int) (cpu : Option CpuSeconds) : Prop where
  present : cpu.isSome ↔ ∃ text, t.readLossy (root.child "stat") = .ok text ∧
    ∃ line ∈ lines text, aggregateMark <+: line
  seconds : ∀ times ∈ cpu, ∃ text line divisor, t.readLossy (root.child "stat") = .ok text ∧
    IsAggregateLine text line ∧ realOfInteger rate = .ok divisor ∧
      ∀ mode : CpuMode, times mode =
        ((words line)[mode.column + 1]?.bind real?).elim 0.0 (· / divisor)

/-- What a host's memory is: nothing is known if the file cannot be read, and else each amount, of
which the file gives the kibibytes. -/
structure TellsMemory (t : Tree) (root : Path) (memory : MemoryAmount → Option Int) : Prop where
  unread : ∀ error, t.readLossy (root.child "meminfo") = .error error →
    ∀ amount, memory amount = none
  amounts : ∀ text, t.readLossy (root.child "meminfo") = .ok text →
    ∀ amount, ∃ n, memory amount = some (1024 * n) ∧ IsAmount text amount n

section Snapshots

variable {t : Tree} {root : Path} {rate : Int}

theorem tellsMemory_readMemory (t : Tree) (root : Path) :
    TellsMemory t root (readMemory t root).1 := by
  constructor
  · intro error hText amount
    rw [readMemory_of_error hText]
  · intro text hText amount
    obtain ⟨n, hBytes, hAmount⟩ := memoryBytes_spec text amount
    rw [readMemory_of_ok hText]
    exact ⟨n, congrArg some hBytes, hAmount⟩

theorem readMemory_log (t : Tree) (root : Path) : (readMemory t root).2 =
    ((Source.meminfo.fault? t root).map (Source.meminfo.record root)).toList := by
  cases hText : t.readLossy (root.child "meminfo") with
  | error error => rw [readMemory_of_error hText, Source.fault?_of_error hText]; rfl
  | ok text => rw [readMemory_of_ok hText, Source.fault?_meminfo_of_ok hText]; rfl

/-- A rate that a double holds leaves nothing but the file to decide whether there are times. -/
theorem readCpu_of_lt (hRate : 0 < rate)
    (hSmall : Source.stat.fault? t root = none → rate < firstTooLarge) :
    ∃ cpu, TellsTimes t root rate cpu ∧ readCpu t root rate =
      .ok (cpu, ((Source.stat.fault? t root).map (Source.stat.record root)).toList) := by
  cases hFault : Source.stat.fault? t root with
  | some fault =>
      refine ⟨none, ⟨?_, nofun⟩, readCpu_of_fault hFault⟩
      refine iff_of_false nofun fun ⟨text, hText, hMark⟩ => ?_
      obtain ⟨line, hLine⟩ := exists_isAggregateLine_iff.mpr hMark
      rw [Source.fault?_stat_eq_none.mpr ⟨text, line, hText, hLine⟩] at hFault
      cases hFault
  | none =>
      obtain ⟨text, line, hText, hLine⟩ := Source.fault?_stat_eq_none.mp hFault
      obtain ⟨divisor, hDivisor, hTicks, hZero⟩ := tickRate_of_lt hRate (hSmall hFault)
      refine ⟨_, ⟨?_, ?_⟩, readCpu_of_line hText hLine hTicks⟩
      · exact iff_of_true rfl ⟨text, hText, exists_isAggregateLine_iff.mp ⟨line, hLine⟩⟩
      · rintro _ ⟨⟩
        exact ⟨text, line, divisor, hText, hLine, hDivisor, ticksIn_tail_div hZero line⟩

/-- The memory adds to what is read of the processor, and never spoils it. -/
theorem read_of_readCpu {cpu : Option CpuSeconds} {log : List Log.Record}
    (h : readCpu t root rate = .ok (cpu, log)) : read t root rate =
      .ok (⟨cpu, (readMemory t root).1⟩, log ++ (readMemory t root).2) := by
  rw [read, h]
  rfl

/-- A rate beyond the doubles ends the sampling of the host, if there are times to be divided. -/
theorem read_of_overlargeRate (hRate : 0 < rate) (hFault : Source.stat.fault? t root = none)
    (hLarge : firstTooLarge ≤ rate) : read t root rate = .error (.range .integerTooLarge) := by
  obtain ⟨text, line, hText, hLine⟩ := Source.fault?_stat_eq_none.mp hFault
  rw [read, readCpu_of_overlargeRate hText hLine (tickRate_of_le hRate hLarge)]
  rfl

/-- Sampling the host at a positive rate fails only if there are ticks to be divided by one that no
double holds. Otherwise the times are those of the one file and the amounts those of the other, each
source that cannot be used is logged once, and neither file bears on what the other tells. -/
theorem read_sources (hRate : 0 < rate) (t : Tree) (root : Path) :
    (Source.stat.fault? t root = none → firstTooLarge ≤ rate →
      read t root rate = .error (.range .integerTooLarge)) ∧
    ((Source.stat.fault? t root = none → rate < firstTooLarge) → ∃ cpu memory,
      read t root rate = .ok (⟨cpu, memory⟩, Source.records t root) ∧
        TellsTimes t root rate cpu ∧ TellsMemory t root memory) ∧
    ∀ t' rate' found found', read t root rate = .ok found → read t' root rate' = .ok found' →
      (t'.read (root.child "meminfo") = t.read (root.child "meminfo") →
        found'.1.memory = found.1.memory) ∧
      (rate' = rate → t'.read (root.child "stat") = t.read (root.child "stat") →
        found'.1.cpu = found.1.cpu) := by
  refine ⟨read_of_overlargeRate hRate, fun hSmall => ?_, ?_⟩
  · obtain ⟨cpu, hTimes, hCpu⟩ := readCpu_of_lt hRate hSmall
    refine ⟨cpu, (readMemory t root).1, ?_, hTimes, tellsMemory_readMemory t root⟩
    rw [read_of_readCpu hCpu, readMemory_log, Source.records_eq]
  · intro t' rate' found found' hFound hFound'
    obtain ⟨cpu, hCpu, hFound⟩ := bind_eq_ok.mp hFound
    obtain ⟨cpu', hCpu', hFound'⟩ := bind_eq_ok.mp hFound'
    cases hFound
    cases hFound'
    refine ⟨fun hSame => ?_, fun hRateSame hSame => ?_⟩
    · simp only [Tree.readLossy, hSame]
    · have hBoth : readCpu t' root rate' = readCpu t root rate := by
        simp only [readCpu, Tree.readLossy, hSame, hRateSame]
      rw [hCpu, hCpu'] at hBoth
      cases hBoth
      rfl

end Snapshots

/-- A host with two files, of which what they hold is given. -/
def hostOf (stat meminfo : Entry) : Tree :=
  ⟨[(["proc"], .directory), (["proc", "stat"], stat), (["proc", "meminfo"], meminfo)]⟩

/-- A host that tells the times of two modes, one of them badly, and nothing of its memory. -/
def busyHost : Tree :=
  hostOf (.file (Utf8.asciiBytes "cpu0 7\ncpu  100 x\n".toList)) (.faulty .permissionDenied)

/-- Without its memory a host is sampled all the same. -/
theorem read_sources_of_busyHost : (0 : Int) < 100 ∧
    Source.stat.fault? busyHost ⟨.root, ["proc"]⟩ = none ∧ (100 : Int) < firstTooLarge ∧
    ∃ cpu memory, read busyHost ⟨.root, ["proc"]⟩ 100 =
        .ok (⟨cpu, memory⟩, Source.records busyHost ⟨.root, ["proc"]⟩) ∧
      cpu.isSome ∧ memory .total = none ∧
      (Source.records busyHost ⟨.root, ["proc"]⟩).length = 1 := by
  have hFault : Source.stat.fault? busyHost ⟨.root, ["proc"]⟩ = none := by decide +kernel
  have hSmall : (100 : Int) < firstTooLarge := by decide +kernel
  obtain ⟨-, hReturns, -⟩ := @read_sources 100 (by decide) busyHost ⟨.root, ["proc"]⟩
  obtain ⟨cpu, memory, hRead, hTimes, hMemory⟩ := hReturns fun _ => hSmall
  refine ⟨by decide, hFault, hSmall, cpu, memory, hRead, hTimes.present.mpr ?_, ?_, ?_⟩
  · exact ⟨"cpu0 7\ncpu  100 x\n".toList, by rfl, "cpu  100 x".toList, by decide +kernel,
      by decide +kernel⟩
  · exact hMemory.unread ⟨.permissionDenied, "/proc/meminfo"⟩ rfl .total
  · decide +kernel

/-- A host without any ticks, but with amounts of memory. -/
def idleHost : Tree :=
  hostOf (.file (Utf8.asciiBytes "cpu  0 0 0 0 0 0 0 0 0 0\n".toList))
    (.file (Utf8.asciiBytes "MemTotal: 1 kB\n".toList))

/-- At a rate beyond the doubles the memory is lost with the times. -/
theorem read_lost_to_overlargeRate : (0 : Int) < 10 ^ 400 ∧
    read idleHost ⟨.root, ["proc"]⟩ (10 ^ 400) = .error (.range .integerTooLarge) :=
  ⟨by decide +kernel, read_of_overlargeRate (by decide +kernel) (by decide +kernel)
    (by decide +kernel)⟩

end PodGauges.Host
