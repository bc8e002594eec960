import Mathlib
import PodGauges.Proofs.Cgroup.Files

/-! The accounting of a control group as the kernel keeps it and as it is read. What is written
stands apart from how it is read: keys, names of files and the shape of lines are spelled out once
more here. -/
namespace PodGauges.Cgroup

open File Number Text

/-! ## What the kernel keeps -/

/-- A number of bytes, or no limit on them. -/
inductive KernelAmount where
  | bytes (n : UInt64)
  | max

/-- A quota in microseconds, or none, over a period. -/
structure KernelBandwidth where
  quota : Option UInt64
  period : UInt64
  period_pos : 0 < period

/-- Counts of events, each under a key of its own. -/
structure KernelEvents where
  counts : Keyed String UInt64
  isWord : ∀ entry ∈ counts, IsWord entry.1.toList
  distinct : counts.Distinct

/-- What is known of a control group. A part is missing if its file is, and among the counters one
may be missing by itself. -/
structure KernelGroup where
  stat : Option (String → Option UInt64)
  bandwidth : Option KernelBandwidth
  amount : MemoryAmount → Option KernelAmount
  events : Option KernelEvents

/-! ## What it writes -/

def KernelAmount.text : KernelAmount → List Char
  | .bytes n => Nat.toDigits 10 n.toNat ++ ['\n']
  | .max => ['m', 'a', 'x', '\n']

def KernelBandwidth.text (bandwidth : KernelBandwidth) : List Char :=
  (bandwidth.quota.elim ['m', 'a', 'x'] fun quota => Nat.toDigits 10 quota.toNat) ++
    ' ' :: (Nat.toDigits 10 bandwidth.period.toNat ++ ['\n'])

/-- One line for each event. -/
def KernelEvents.rows (events : KernelEvents) : List (List UInt8) :=
  events.counts.map fun (key, n) =>
    Utf8.encode (String.ofList (key.toList ++ ' ' :: Nat.toDigits 10 n.toNat))

/-- The counters of the processor that are exported. -/
def statKeys : List String :=
  ["usage_usec", "user_usec", "system_usec", "throttled_usec", "nr_periods", "nr_throttled"]

/-- The file of each amount. -/
def amountFiles : List (MemoryAmount × String) :=
  [(.current, "memory.current"), (.peak, "memory.peak"), (.max, "memory.max"),
   (.high, "memory.high"), (.low, "memory.low")]

/-- A file that holds what is written of a part of the state, or that cannot be read if the part is
missing. -/
def Holds {α : Type} (t : Tree) (path : Path) (isWritten : α → List UInt8 → Prop) :
    Option α → Prop
  | none => ∃ error, t.read path = .error error
  | some part => ∃ bytes, t.read path = .ok bytes ∧ isWritten part bytes

/-- A directory with the files of a control group. Of `cpu.stat` the lines may come in any order,
with others among them. -/
structure HoldsGroup (t : Tree) (root : Path) (group : KernelGroup) : Prop where
  directory : t.isDirectory root = .ok true
  stat : Holds t (root.child "cpu.stat")
    (fun number bytes => ∃ rows, bytes = Dump.joined rows ∧ Dump.IsDump statKeys number rows)
    group.stat
  bandwidth : Holds t (root.child "cpu.max")
    (fun bandwidth bytes => bytes = Utf8.encode (String.ofList bandwidth.text)) group.bandwidth
  amount : ∀ entry ∈ amountFiles, Holds t (root.child entry.2)
    (fun amount bytes => bytes = Utf8.encode (String.ofList amount.text)) (group.amount entry.1)
  events : Holds t (root.child "memory.events")
    (fun events bytes => bytes = Dump.joined events.rows) group.events

/-! ## What is to be read of it -/

/-- Microseconds, shown as the seconds nearest to them. -/
def ShowsSeconds (shown : Option Quantity) : Option UInt64 → Prop
  | none => shown = none
  | some n => ∃ x, IsNearest x (n.toNat / 1000000) ∧ shown = some (.real x)

/-- A bandwidth, shown as the number of cores nearest to it. -/
def ShowsCores (shown : Option Limit) : Option KernelBandwidth → Prop
  | none => shown = none
  | some ⟨none, _, _⟩ => shown = some .unlimited
  | some ⟨some quota, period, _⟩ =>
    ∃ x, IsNearest x (quota.toNat / period.toNat) ∧ shown = some (.finite (.real x))

def KernelAmount.shown : KernelAmount → Limit
  | .bytes n => .finite (.int n.toNat)
  | .max => .unlimited

/-- The counts, under the same keys and in the same order. -/
def KernelEvents.shown (events : KernelEvents) : Keyed String Int :=
  events.counts.map fun (key, n) => (key, (n.toNat : Int))

/-- A snapshot that shows the state of a control group and nothing else. -/
structure ShowsGroup (s : Snapshot) (group : KernelGroup) : Prop where
  time : ∀ entry ∈ [(CpuStat.usage, "usage_usec"), (.user, "user_usec"), (.system, "system_usec"),
      (.throttled, "throttled_usec")],
    ShowsSeconds (s.cpu.stat entry.1) (group.stat.bind (· entry.2))
  count : ∀ entry ∈ [(CpuStat.periods, "nr_periods"), (.throttledPeriods, "nr_throttled")],
    s.cpu.stat entry.1 = (group.stat.bind (· entry.2)).map fun n => .int n.toNat
  limit : ShowsCores s.cpu.limit group.bandwidth
  amount : ∀ amount, s.memory.amount amount = (group.amount amount).map KernelAmount.shown
  events : s.memory.events = (group.events.map KernelEvents.shown).getD []

/-! ## Files -/

section Files

variable {t : Tree} {root : Path} {name : String}

/-- A file that cannot be read counts as one that is not there. -/
theorem text?_of_read_eq_error {error : Errno} (h : t.read (root.child name) = .error error) :
    text? t root name = none := by
  simp [text?, Tree.readLossy, h, Except.toOption]

/-- What is read of a file is its text with line feeds alone to end its lines. -/
theorem text?_of_read_eq_ok {bytes : List UInt8} (h : t.read (root.child name) = .ok bytes) :
    text? t root name = some (unifyNewlines (Utf8.decodeLossy bytes)) := by
  simp [text?, Tree.readLossy, h, Except.toOption]

/-- A text without carriage returns is read as it was written. -/
theorem text?_of_encode {text : List Char} (hReturn : '\r' ∉ text)
    (h : t.read (root.child name) = .ok (Utf8.encode (String.ofList text))) :
    text? t root name = some text := by
  rw [text?_of_read_eq_ok h, Utf8.decodeLossy_encode, unifyNewlines_of_not_mem hReturn]

end Files

theorem not_mem_toDigits {n : Nat} {c : Char} (hc : ¬ c.isDigit) : c ∉ Nat.toDigits 10 n :=
  not_mem_of_isDigit (fun _ h => isDigit_of_mem_toDigits h) hc

/-- What the kernel writes for an amount needs no line ends unified. -/
theorem KernelAmount.not_mem_text (amount : KernelAmount) : '\r' ∉ amount.text := by
  cases amount with
  | max => decide
  | bytes n => simpa [text] using not_mem_toDigits (by decide)

theorem KernelBandwidth.not_mem_text (bandwidth : KernelBandwidth) : '\r' ∉ bandwidth.text := by
  have hDigits (n : Nat) : '\r' ∉ Nat.toDigits 10 n := not_mem_toDigits (by decide)
  cases hQuota : bandwidth.quota <;> simp [text, hQuota, hDigits]

/-! ## Counters -/

section Counters

variable {number : String → Option UInt64} {rows : List (List UInt8)}
  (hDump : Dump.IsDump statKeys number rows)
include hDump

theorem mem_statReadings {stat : CpuStat} {v : Int} :
    (stat, v) ∈ CpuStat.readings (Utf8.decodeLossy (Dump.joined rows)) ↔
      ∃ n, number stat.key = some n ∧ v = n.toNat :=
  Dump.mem_readings_of_isDump CpuStat.keyOf?_key CpuStat.isWord_key hDump

/-- The counters can be told, and each is that of its key. -/
theorem exists_stat : ∃ table,
    CpuStat.ofText (unifyNewlines (Utf8.decodeLossy (Dump.joined rows))) = .ok table ∧
      ∀ stat, (Keyed.get? stat table).map .ok =
        (number stat.key).map fun n => stat.value n.toNat := by
  have hReadings := Dump.readings_unifyNewlines (Dump.keyOf? CpuStat.all CpuStat.key)
    (Utf8.decodeLossy (Dump.joined rows))
  obtain ⟨table, hTable⟩ : ∃ table,
      CpuStat.ofText (unifyNewlines (Utf8.decodeLossy (Dump.joined rows))) = .ok table := by
    rw [CpuStat.exists_ofText_iff, CpuStat.readings, hReadings]
    intro stat v hMem _
    obtain ⟨n, -, rfl⟩ := (mem_statReadings hDump).mp hMem
    rw [Int.natAbs_natCast]
    exact (toNat_lt_firstTooLarge n).trans_le (Nat.le_mul_of_pos_right _ (by decide))
  refine ⟨table, hTable, fun stat => ?_⟩
  have hLast := Dump.last?_of_isDump CpuStat.keyOf?_key CpuStat.isWord_key hDump stat
  rw [← CpuStat.get?_of_ofText hTable stat, CpuStat.readings, hReadings, hLast, Option.map_map]
  rfl

end Counters

/-- The value of a time is the number of its microseconds in seconds. -/
theorem showsSeconds_of_value {stat : CpuStat} (hTime : stat.isTime) {shown : Option Quantity}
    {number : Option UInt64}
    (h : shown.map .ok = number.map fun n => stat.value n.toNat) : ShowsSeconds shown number := by
  cases number with
  | none =>
      have hNone : shown = none := by simpa using h
      exact hNone
  | some n =>
      obtain ⟨amount, rfl, hValue⟩ := Option.map_eq_some_iff.mp h
      have hQuotient : (realOfQuotient n.toNat 1000000).map .real = .ok amount :=
        (if_pos hTime).symm.trans hValue.symm
      obtain ⟨x, hx, rfl⟩ := map_eq_ok.mp hQuotient
      exact ⟨x, isNearest_of_realOfQuotient (by decide) hx, rfl⟩

theorem eq_of_value {stat : CpuStat} (hCount : stat.isTime = false) {shown : Option Quantity}
    {number : Option UInt64} (h : shown.map .ok = number.map fun n => stat.value n.toNat) :
    shown = number.map fun n => .int n.toNat := by
  cases number with
  | none => simpa using h
  | some n =>
      obtain ⟨amount, rfl, hValue⟩ := Option.map_eq_some_iff.mp h
      have hInt : (.ok (.int n.toNat) : Except RangeError Quantity) = .ok amount :=
        (if_neg (by simp [hCount])).symm.trans hValue.symm
      cases hInt
      rfl

/-! ## The bandwidth -/

theorem words_bandwidth {quota : List Char} (hQuota : IsWord quota) (period : Nat) :
    words (quota ++ ' ' :: (Nat.toDigits 10 period ++ ['\n'])) =
      [quota, Nat.toDigits 10 period] := by
  have hEnds : EndsWord ['\n'] := by decide
  rw [words_append_space hQuota, words_append (isWord_toDigits period) hEnds]
  rfl

/-- Whatever the kernel writes as bandwidth is read, and shows as many processors. -/
theorem exists_bandwidth (bandwidth : KernelBandwidth) :
    ∃ limit, bandwidth? bandwidth.text = .ok limit ∧ ShowsCores limit (some bandwidth) := by
  obtain ⟨quota, period, hPositive⟩ := bandwidth
  have hPeriod : 0 < period.toNat := hPositive
  cases quota with
  | none =>
      refine ⟨_, bandwidth?_of_isUnlimited ?_, rfl⟩
      rw [IsUnlimited, KernelBandwidth.text, Option.elim_none, words_bandwidth (by decide)]
      rfl
  | some quota =>
      have hGiven : GivesQuota (KernelBandwidth.text ⟨some quota, period, hPositive⟩) quota.toNat
          period.toNat :=
        ⟨_, _, _, words_bandwidth (isWord_toDigits _) _,
          integer?_toDigits (toNat_lt_of_maxDecimalDigits quota),
          integer?_toDigits (toNat_lt_of_maxDecimalDigits period), by omega⟩
      obtain ⟨x, hx⟩ : ∃ x, realOfQuotient quota.toNat period.toNat = .ok x := by
        rw [exists_realOfQuotient_iff hPeriod, Int.natAbs_natCast]
        exact (toNat_lt_firstTooLarge quota).trans_le (Nat.le_mul_of_pos_right _ hPeriod)
      refine ⟨some (.finite (.real x)), ?_, x, isNearest_of_realOfQuotient hPeriod hx, rfl⟩
      rw [bandwidth?_of_givesQuota hGiven, Int.toNat_natCast, hx]
      rfl

/-! ## Amounts -/

/-- An amount is read back, be it a number or no limit at all. -/
theorem ofText?_text (amount : KernelAmount) : Limit.ofText? amount.text = some amount.shown := by
  cases amount with
  | max => exact if_pos (by decide)
  | bytes n =>
      have hEnd : Blank ['\n'] := by decide
      have hTrim : trim (Nat.toDigits 10 n.toNat ++ ['\n']) = Nat.toDigits 10 n.toNat :=
        (trimBy_append_back hEnd _).trans (trimBy_eq_self (isWord_toDigits n.toNat).not_blank)
      have hNumber : Nat.toDigits 10 n.toNat ≠ Limit.unlimitedWord := by
        intro hWord
        have hLetter : 'm' ∉ Nat.toDigits 10 n.toNat := not_mem_toDigits (by decide)
        exact hLetter (by rw [hWord]; decide)
      rw [KernelAmount.text, Limit.ofText?, hTrim, if_neg hNumber,
        integer?_toDigits (toNat_lt_of_maxDecimalDigits n)]
      rfl

/-! ## Events -/

theorem memoryEvents_rows (events : KernelEvents) :
    memoryEvents (unifyNewlines (Utf8.decodeLossy (Dump.joined events.rows))) =
      events.shown := by
  have hRow : ∀ entry ∈ events.counts,
      Dump.readings (fun word => some (String.ofList word)) (Utf8.decodeLossy
        (Utf8.encode (String.ofList (entry.1.toList ++ ' ' :: Nat.toDigits 10 entry.2.toNat)))) =
      [(entry.1, (entry.2.toNat : Int))] := by
    intro entry hEntry
    rw [Dump.readings_of_isEntry _ (events.isWord entry hEntry)
      (toNat_lt_of_maxDecimalDigits entry.2) (Dump.isEntry_space entry.1 _), String.ofList_toList]
    rfl
  have hReadings : Dump.readings (fun word => some (String.ofList word))
      (unifyNewlines (Utf8.decodeLossy (Dump.joined events.rows))) = events.shown := by
    rw [Dump.readings_unifyNewlines, Dump.readings_decodeLossy_joined, KernelEvents.rows,
      List.flatMap_map, List.flatMap_congr hRow, KernelEvents.shown, List.map_eq_flatMap]
  have hDistinct : events.shown.Distinct := by
    rw [Keyed.Distinct, KernelEvents.shown, List.map_map]
    exact events.distinct
  rw [memoryEvents, hReadings, Keyed.ofPairs_of_distinct hDistinct]

/-! ## The whole directory -/

section Directory

variable {t : Tree} {root : Path} {group : KernelGroup} (h : HoldsGroup t root group)
include h

/-- The table of the processor is read back, absent keys included. -/
theorem HoldsGroup.exists_stat : ∃ table, statOf (text? t root "cpu.stat") = .ok table ∧
    ∀ stat, (Keyed.get? stat table).map .ok =
      (group.stat.bind (· stat.key)).map fun n => stat.value n.toNat := by
  have hStat := h.stat
  cases hNumber : group.stat with
  | none =>
      rw [hNumber] at hStat
      obtain ⟨error, hRead⟩ := hStat
      rw [text?_of_read_eq_error hRead]
      exact ⟨[], rfl, fun _ => rfl⟩
  | some number =>
      rw [hNumber] at hStat
      obtain ⟨bytes, hRead, rows, rfl, hDump⟩ := hStat
      rw [text?_of_read_eq_ok hRead]
      exact Cgroup.exists_stat hDump

/-- The limit of the processor is read back, or absent with its file. -/
theorem HoldsGroup.exists_limit : ∃ limit, bandwidthOf (text? t root "cpu.max") = .ok limit ∧
    ShowsCores limit group.bandwidth := by
  have hMax := h.bandwidth
  cases hBandwidth : group.bandwidth with
  | none =>
      rw [hBandwidth] at hMax
      obtain ⟨error, hRead⟩ := hMax
      rw [text?_of_read_eq_error hRead]
      exact ⟨none, rfl, rfl⟩
  | some bandwidth =>
      rw [hBandwidth] at hMax
      obtain ⟨bytes, hRead, rfl⟩ := hMax
      rw [text?_of_encode bandwidth.not_mem_text hRead]
      exact exists_bandwidth bandwidth

/-- Each amount of memory is read back, or absent with its file. -/
theorem HoldsGroup.amount_eq (amount : MemoryAmount) :
    (text? t root ("memory." ++ amount.name)).bind Limit.ofText? =
      (group.amount amount).map KernelAmount.shown := by
  have hFile : (amount, "memory." ++ amount.name) ∈ amountFiles := by cases amount <;> decide
  have hHolds := h.amount _ hFile
  cases hAmount : group.amount amount with
  | none =>
      rw [hAmount] at hHolds
      obtain ⟨error, hRead⟩ := hHolds
      rw [text?_of_read_eq_error hRead]
      rfl
  | some kept =>
      rw [hAmount] at hHolds
      obtain ⟨bytes, hRead, rfl⟩ := hHolds
      rw [text?_of_encode kept.not_mem_text hRead]
      exact ofText?_text kept

/-- The events are read back, and there are none without their file. -/
theorem HoldsGroup.events_eq :
    (readMemory t root).events = (group.events.map KernelEvents.shown).getD [] := by
  have hHolds := h.events
  unfold readMemory
  cases hEvents : group.events with
  | none =>
      rw [hEvents] at hHolds
      obtain ⟨error, hRead⟩ := hHolds
      rw [text?_of_read_eq_error hRead]
      rfl
  | some events =>
      rw [hEvents] at hHolds
      obtain ⟨bytes, hRead, rfl⟩ := hHolds
      rw [text?_of_read_eq_ok hRead]
      exact memoryEvents_rows events

/-- What the kernel has written of a control group is read back, and nothing else is read. -/
theorem read_of_holdsGroup : ∃ s, read t root = .ok s ∧ ShowsGroup s group := by
  obtain ⟨table, hTable, hStat⟩ := h.exists_stat
  obtain ⟨limit, hLimit, hCores⟩ := h.exists_limit
  have hCpu : readCpu t root = .ok ⟨fun stat => table.get? stat, limit⟩ :=
    readCpu_eq_ok.mpr ⟨⟨table, hTable, rfl⟩, hLimit⟩
  refine ⟨⟨⟨fun stat => table.get? stat, limit⟩, readMemory t root⟩,
    read_eq_ok.mpr ⟨h.directory, hCpu, rfl⟩, ?_, ?_, hCores, h.amount_eq, h.events_eq⟩
  · intro entry hEntry
    obtain ⟨hTime, hKey⟩ : entry.1.isTime ∧ entry.1.key = entry.2 := by
      revert entry
      decide
    rw [← hKey]
    exact showsSeconds_of_value hTime (hStat entry.1)
  · intro entry hEntry
    obtain ⟨hCount, hKey⟩ : entry.1.isTime = false ∧ entry.1.key = entry.2 := by
      revert entry
      decide
    rw [← hKey]
    exact eq_of_value hCount (hStat entry.1)

end Directory

/-- A group without a quota and without a peak, of which little of the processor is told. -/
def unboundedGroup : KernelGroup where
  stat := some fun key => if key = "usage_usec" then some 1500000 else none
  bandwidth := some ⟨none, 100000, by decide⟩
  amount := fun
    | .current => some (.bytes 4096)
    | .max => some .max
    | _ => none
  events := some ⟨[("oom", 3), ("low", 0)], by decide, by unfold Keyed.Distinct; decide⟩

def bytesOf (content : String) : List UInt8 := Utf8.encode (String.ofList content.toList)

/-- Its counters stand behind a line of another key. -/
def unboundedFiles : Tree :=
  ⟨[(["cgroup"], .directory),
    (["cgroup", "cpu.stat"],
      .file (Dump.joined (["nice_usec 7", "usage_usec 1500000"].map bytesOf))),
    (["cgroup", "cpu.max"], .file (bytesOf "max 100000\n")),
    (["cgroup", "memory.current"], .file (bytesOf "4096\n")),
    (["cgroup", "memory.max"], .file (bytesOf "max\n")),
    (["cgroup", "memory.events"], .file (Dump.joined (["oom 3", "low 0"].map bytesOf)))]⟩

theorem bytesOf_eq {content : String} {text : List Char} (h : content.toList = text) :
    bytesOf content = Utf8.encode (String.ofList text) := by
  rw [bytesOf, h]

/-- A group without a limit, in which some files are missing, is read back. -/
theorem read_of_unboundedFiles :
    HoldsGroup unboundedFiles ⟨.root, ["cgroup"]⟩ unboundedGroup ∧
    ∃ s, read unboundedFiles ⟨.root, ["cgroup"]⟩ = .ok s ∧ s.cpu.limit = some .unlimited ∧
      s.memory.amount .current = some (.finite (.int 4096)) ∧ s.memory.amount .peak = none ∧
      s.memory.events = [("oom", 3), ("low", 0)] := by
  have hUsage : Dump.IsEntry "usage_usec" 1500000 (bytesOf "usage_usec 1500000") := by
    rw [bytesOf_eq (by decide : _ = "usage_usec".toList ++ ' ' :: Nat.toDigits 10 1500000)]
    exact Dump.isEntry_space _ _
  have hSilent : Dump.IsSilent statKeys (bytesOf "nice_usec 7") := by
    rw [Dump.IsSilent, bytesOf, Utf8.decodeLossy_encode]
    decide +kernel
  have hDump : Dump.IsDump statKeys (fun key => if key = "usage_usec" then some 1500000 else none)
      (["nice_usec 7", "usage_usec 1500000"].map bytesOf) := by
    constructor
    · simp only [List.map_cons, List.map_nil, List.forall_mem_cons]
      exact ⟨.inr hSilent, .inl ⟨"usage_usec", by decide, 1500000, rfl, hUsage⟩, by simp⟩
    · intro key hKey n hNumber
      obtain ⟨rfl, rfl⟩ : key = "usage_usec" ∧ 1500000 = n := by simpa using hNumber
      exact ⟨_, List.mem_cons_of_mem _ (List.mem_cons_self ..), hUsage⟩
  have hEvents : ["oom 3", "low 0"].map bytesOf =
      [("oom", 3), ("low", 0)].map fun (key, n) =>
        Utf8.encode (String.ofList (key.toList ++ ' ' :: Nat.toDigits 10 n)) := by
    simp only [List.map_cons, List.map_nil]
    rw [bytesOf_eq (by decide : _ = "oom".toList ++ ' ' :: Nat.toDigits 10 3),
      bytesOf_eq (by decide : _ = "low".toList ++ ' ' :: Nat.toDigits 10 0)]
  have hHolds : HoldsGroup unboundedFiles ⟨.root, ["cgroup"]⟩ unboundedGroup := by
    constructor
    · rfl
    · exact ⟨_, rfl, _, rfl, hDump⟩
    · exact ⟨_, rfl, bytesOf_eq (by decide)⟩
    · simp only [amountFiles, List.forall_mem_cons]
      exact ⟨⟨_, rfl, bytesOf_eq (by decide)⟩, ⟨_, rfl⟩, ⟨_, rfl, bytesOf_eq (by decide)⟩, ⟨_, rfl⟩,
        ⟨_, rfl⟩, by simp⟩
    · exact ⟨_, rfl, congrArg Dump.joined hEvents⟩
  obtain ⟨s, hRead, hShows⟩ := read_of_holdsGroup hHolds
  exact ⟨hHolds, s, hRead, hShows.limit, hShows.amount .current, hShows.amount .peak,
    hShows.events⟩

end PodGauges.Cgroup
