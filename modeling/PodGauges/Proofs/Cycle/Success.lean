import Mathlib
import PodGauges.Proofs.Cgroup.Independence
import PodGauges.Proofs.Config.Accepted
import PodGauges.Proofs.Cycle.Isolation
import PodGauges.Proofs.File.Places
import PodGauges.Proofs.Host.Sources
import PodGauges.Proofs.Number.Literal

/-! Which updates of a cycle succeed. Whatever the files say, as long as no number in them is out of
all proportion, a category fails only for what it cannot do without: a directory for the control
group, and for the sockets a table that can be read. All else leaves a series as it was. -/
namespace PodGauges

open File Number Text

/-! ## Numbers of 64 bits -/

/-- The integer literals of a text are numbers of 64 bits, with either sign. -/
def HasSmallLiterals (text : List Char) : Prop :=
  ∀ word ∈ words text, ∀ n, integer? word = some n → n.natAbs < 2 ^ 64

instance (text : List Char) : Decidable (HasSmallLiterals text) :=
  decidable_of_iff (∀ word ∈ words text, (integer? word).all (·.natAbs < 2 ^ 64)) <| by
    simp [HasSmallLiterals, Option.all_eq_true]

namespace HasSmallLiterals

variable {text line : List Char} {n : Int} (h : HasSmallLiterals text)
include h

theorem of_trim (hInteger : integer? (trim text) = some n) : n.natAbs < 2 ^ 64 := by
  obtain ⟨word, hWords, hWord⟩ := exists_word_of_integer? hInteger
  rw [words_trim] at hWords
  exact h word (by simp [hWords]) n hWord

theorem of_gives {key : List Char} (hLine : line ∈ lines text) (hGiven : Dump.Gives key n line) :
    n.natAbs < 2 ^ 64 := by
  obtain ⟨value, rest, hWords, hValue⟩ := hGiven
  have hWord : value ∈ words text := by
    rw [words_eq_flatMap_lines]
    exact List.mem_flatMap.mpr ⟨line, hLine, by simp [hWords]⟩
  exact h value hWord n hValue

theorem of_givesQuota {period : Int} (hGiven : Cgroup.GivesQuota text n period) :
    n.natAbs < 2 ^ 64 := by
  obtain ⟨first, second, rest, hWords, hQuota, -⟩ := hGiven
  exact h first (by simp [hWords]) n hQuota

theorem of_readings {κ : Type} {key? : List Char → Option κ} {k : κ}
    (hReading : (k, n) ∈ Dump.readings key? text) : n.natAbs < 2 ^ 64 := by
  obtain ⟨line, hLine, word, -, hGiven⟩ := Dump.mem_readings.mp hReading
  exact h.of_gives hLine hGiven

theorem of_last? {κ : Type} [DecidableEq κ] {key? : List Char → Option κ} {k : κ}
    (hLast : Dump.last? k (Dump.readings key? text) = some n) : n.natAbs < 2 ^ 64 := by
  obtain ⟨⟨k', n'⟩, hReading, rfl⟩ := Option.map_eq_some_iff.mp hLast
  exact h.of_readings (List.mem_of_mem_filter (List.mem_of_getLast? hReading))

end HasSmallLiterals

/-- A value without an integer that is too large for a double, by a wide margin. -/
def Value.IsModest : Value → Prop
  | .quantity (.int n) | .limit (.finite (.int n)) => n.natAbs < 2 ^ 80
  | _ => True

/-- A modest value is in the range of the doubles. -/
theorem Value.IsModest.exists_toReal {value : Value} (h : value.IsModest) :
    ∃ x, value.toReal = .ok x := by
  have hInteger {n : Int} (hn : n.natAbs < 2 ^ 80) : ∃ x, realOfInteger n = .ok x :=
    exists_realOfInteger_iff.mpr (hn.trans_le (by decide +kernel))
  match value with
  | .quantity (.int n) | .limit (.finite (.int n)) => exact hInteger h
  | .quantity (.real x) | .limit (.finite (.real x)) => exact ⟨x, rfl⟩
  | .limit .unlimited => exact ⟨_, rfl⟩

/-! ## What is written -/

/-- What is written of something found is modest if it is so of all that may be found. -/
theorem Write.modest_of_map {α : Type} {found : Option α} {f : α → Write} {w : Write}
    (hw : found.map f = some w) (h : ∀ a, found = some a → (f a).value.IsModest) :
    w.value.IsModest := by
  obtain ⟨a, hFound, rfl⟩ := Option.map_eq_some_iff.mp hw
  exact h a hFound

namespace Cgroup

variable {t : Tree} {root : Path}

/-- The files of a control group have small literals, as far as they can be read. -/
def SmallFiles (t : Tree) (root : Path) : Prop :=
  ∀ name ∈ fileNames, ∀ text, text? t root name = some text → HasSmallLiterals text

theorem readLossy_of_text? {name : String} {text : List Char} (h : text? t root name = some text) :
    t.readLossy (root.child name) = .ok text := by
  unfold text? at h
  cases hRead : t.readLossy (root.child name) with
  | error error =>
      rw [hRead] at h
      cases h
  | ok found =>
      rw [hRead] at h
      exact congrArg Except.ok (Option.some.inj h)

/-- Files with small numbers only have none that is too large. -/
theorem not_tooLarge_of_small (h : SmallFiles t root) : ¬ TooLarge t root := by
  have hWide {n : Nat} (hn : 0 < n) : 2 ^ 64 ≤ firstTooLarge * n :=
    (by decide +kernel : 2 ^ 64 ≤ firstTooLarge).trans (Nat.le_mul_of_pos_right _ hn)
  intro hLarge
  cases hLarge with
  | time hText hLine hKey hGiven hLarge =>
      have hSmall := (h _ (by decide) _ hText).of_gives hLine hGiven
      exact absurd hLarge (Nat.not_le.mpr (hSmall.trans_le (hWide (by decide))))
  | bandwidth hText hGiven hLarge =>
      have hSmall := (h _ (by decide) _ hText).of_givesQuota hGiven
      have hPeriod := hGiven.pos
      exact absurd hLarge (Nat.not_le.mpr (hSmall.trans_le (hWide (by omega))))

/-- A time or a count of the processor is modest. -/
theorem modest_stat {text : Option (List Char)} (h : ∀ content ∈ text, HasSmallLiterals content)
    {table : Keyed CpuStat Quantity} (hTable : statOf text = .ok table) {stat : CpuStat}
    {q : Quantity} (hStat : table.get? stat = some q) : (Value.quantity q).IsModest := by
  cases text with
  | none =>
      cases hTable
      cases hStat
  | some content =>
      have hLast := CpuStat.get?_of_ofText hTable stat
      rw [hStat] at hLast
      obtain ⟨n, hLast, hValue⟩ := Option.map_eq_some_iff.mp hLast
      have hSmall : n.natAbs < 2 ^ 64 := (h content rfl).of_last? hLast
      unfold CpuStat.value at hValue
      split at hValue
      · obtain ⟨x, -, rfl⟩ := map_eq_ok.mp hValue
        trivial
      · cases hValue
        exact hSmall.trans (by decide)

/-- A limit of the processor is modest, whatever its quota is, for it has been a double before. -/
theorem modest_bandwidth {text : Option (List Char)} {limit : Limit}
    (h : bandwidthOf text = .ok (some limit)) : (Value.limit limit).IsModest := by
  cases text with
  | none => cases h
  | some content =>
      unfold bandwidthOf bandwidth? at h
      simp only [Option.map_some, Option.getD_some] at h
      split at h
      · cases h
      · split at h
        · cases h
          trivial
        · split at h
          · split at h
            · obtain ⟨x, -, hLimit⟩ := map_eq_ok.mp h
              cases hLimit
              trivial
            · cases h
          · cases h

theorem modest_amount {text : List Char} (h : HasSmallLiterals text) {limit : Limit}
    (hLimit : Limit.ofText? text = some limit) : (Value.limit limit).IsModest := by
  unfold Limit.ofText? at hLimit
  split at hLimit
  · cases hLimit
    trivial
  · obtain ⟨n, hInteger, rfl⟩ := Option.map_eq_some_iff.mp hLimit
    exact (h.of_trim hInteger).trans (by decide)

theorem modest_event {text : List Char} (h : HasSmallLiterals text) {event : String} {n : Int}
    (hEvent : (event, n) ∈ memoryEvents text) : (Value.quantity (.int n)).IsModest :=
  (h.of_readings (Keyed.mem_of_mem_ofPairs hEvent)).trans (by decide)

theorem modest_writes (h : SmallFiles t root) {snapshot : Snapshot}
    (hRead : read t root = .ok snapshot) : ∀ w ∈ snapshot.writes, w.value.IsModest := by
  obtain ⟨-, hCpu, hMemory⟩ := read_eq_ok.mp hRead
  obtain ⟨⟨table, hTable, hStat⟩, hLimit⟩ := readCpu_eq_ok.mp hCpu
  intro w hw
  simp only [Snapshot.writes, List.mem_append, List.mem_filterMap, Option.mem_toList,
    List.mem_map] at hw
  rcases hw with ((⟨stat, -, hw⟩ | hw) | ⟨amount, -, hw⟩) | ⟨⟨event, n⟩, hEvent, rfl⟩
  · refine Write.modest_of_map hw fun q hq => ?_
    rw [hStat] at hq
    exact modest_stat (fun content hContent => h _ (by decide) content hContent) hTable hq
  · refine Write.modest_of_map hw fun limit hFound => ?_
    rw [hFound] at hLimit
    exact modest_bandwidth hLimit
  · refine Write.modest_of_map hw fun limit hFound => ?_
    rw [hMemory] at hFound
    obtain ⟨text, hText, hFound⟩ := Option.bind_eq_some_iff.mp hFound
    exact modest_amount (h _ (by cases amount <;> decide) text hText) hFound
  · rw [hMemory] at hEvent
    simp only [readMemory] at hEvent
    split at hEvent
    · next text hText => exact modest_event (h _ (by decide) text hText) hEvent
    · cases hEvent

end Cgroup

namespace Host

variable {t : Tree} {root : Path}

/-- The host can always be sampled at the rate of a cycle; a file that cannot be used is left out.
-/
theorem exists_read (t : Tree) (root : Path) :
    ∃ found, read t root defaultTickRate = .ok found := by
  have hSmall : defaultTickRate < firstTooLarge := by decide +kernel
  obtain ⟨_, -, hCpu⟩ := readCpu_of_lt (by decide : 0 < defaultTickRate) fun _ => hSmall
  exact ⟨_, read_of_readCpu hCpu⟩

/-- The memory of the host is modest, even in bytes. -/
theorem modest_memory {text : List Char} (h : HasSmallLiterals text) (amount : MemoryAmount) :
    (Value.quantity (.int (memoryBytes text amount))).IsModest := by
  have hUnit : bytesPerKibibyte.natAbs = 1024 := rfl
  change (memoryBytes text amount).natAbs < 2 ^ 80
  rw [memoryBytes, Int.natAbs_mul, hUnit]
  cases hLast : Dump.last? amount (Dump.readings MemoryAmount.ofWord? text) with
  | none => decide
  | some n =>
      have hSmall := h.of_last? hLast
      rw [Option.getD_some]
      omega

theorem modest_writes
    (h : ∀ text, t.readLossy (root.child "meminfo") = .ok text → HasSmallLiterals text) {rate : Int}
    {found : Snapshot × List Log.Record} (hRead : read t root rate = .ok found) :
    ∀ w ∈ found.1.writes, w.value.IsModest := by
  obtain ⟨⟨cpu, cpuLog⟩, -, hFound⟩ := bind_eq_ok.mp hRead
  cases hFound
  intro w hw
  simp only [Snapshot.writes, List.mem_append, List.mem_flatMap, List.mem_map,
    List.mem_filterMap] at hw
  rcases hw with ⟨seconds, -, mode, -, rfl⟩ | ⟨amount, -, hw⟩
  · trivial
  · refine Write.modest_of_map hw fun bytes hBytes => ?_
    cases hText : t.readLossy (root.child "meminfo") with
    | error error =>
        rw [hText] at hBytes
        cases hBytes
    | ok text =>
        rw [hText] at hBytes
        cases hBytes
        exact modest_memory (h text hText) amount

end Host

/-- A text that is UTF-8 throughout is read in one way only. -/
theorem File.Tree.readLossy_of_readText {t : Tree} {p : Path} {text : List Char}
    (h : t.readText p = .ok text) : t.readLossy p = .ok text := by
  unfold readText at h
  unfold readLossy
  cases hRead : t.read p with
  | error error =>
      rw [hRead] at h
      cases h
  | ok bytes =>
      rw [hRead] at h
      dsimp only at h
      split at h
      · next decoded hDecoded =>
          cases h
          dsimp only
          rw [Utf8.decodeLossy_of_decode hDecoded]
      · cases h

namespace Network

variable {t : Tree} {root : Path}

/-- An interface can be sampled unless the test for its directory fails. -/
theorem exists_read_iff {interface : String} : (∃ found, read t root interface = .ok found) ↔
    (interface ≠ "" → ∃ answer,
      t.isDirectory ((root.join (Path.ofString interface)).child "statistics") = .ok answer) := by
  unfold read
  split
  · next hName => exact iff_of_true ⟨_, rfl⟩ fun hNot => absurd hName hNot
  · next hName =>
      cases hDirectory : t.isDirectory
          ((root.join (Path.ofString interface)).child "statistics") with
      | error error => simp [hName, hDirectory]
      | ok answer => cases answer <;> simp [hDirectory]

theorem modest_writes {interface : String} (h : ∀ counter : Counter, ∀ text,
      t.readLossy (((root.join (Path.ofString interface)).child "statistics").child
        counter.fileName) = .ok text → HasSmallLiterals text)
    {snapshot : Snapshot} (hRead : read t root interface = .ok (some snapshot)) :
    ∀ w ∈ snapshot.writes, w.value.IsModest := by
  have hCounter : snapshot.counter =
      counter? t ((root.join (Path.ofString interface)).child "statistics") := by
    unfold read at hRead
    split at hRead
    · cases hRead
    · dsimp only at hRead
      split at hRead <;> cases hRead
      rfl
  intro w hw
  obtain ⟨counter, -, hw⟩ := List.mem_filterMap.mp hw
  refine Write.modest_of_map hw fun n hn => ?_
  rw [hCounter] at hn
  unfold counter? at hn
  split at hn
  · next text hText =>
      exact ((h counter text (Tree.readLossy_of_readText hText)).of_trim hn).trans (by decide)
  · cases hn

/-- The tables of the sockets: the first has to be readable, the second may be missing. -/
def HasTables (t : Tree) (root : Path) : Prop :=
  (∃ text, t.readText ((root.child "net").child "tcp") = .ok text) ∧
    ((∃ text, t.readText ((root.child "net").child "tcp6") = .ok text) ∨
      t.read ((root.child "net").child "tcp6") = .error .noSuchFile)

/-- The sockets can be counted just if their tables can be read. -/
theorem exists_readSockets_iff : (∃ counts, readSockets t root = .ok counts) ↔
    HasTables t root := by
  unfold readSockets HasTables
  dsimp only
  cases t.readText ((root.child "net").child "tcp") with
  | error error => simp [bind, Except.bind]
  | ok four =>
      cases hRead : t.read ((root.child "net").child "tcp6") with
      | error error =>
          have hSix : t.readText ((root.child "net").child "tcp6") =
              .error (.io ⟨error, ((root.child "net").child "tcp6").toString⟩) := by
            simp only [Tree.readText, hRead]
          by_cases hGone : error = .noSuchFile <;> simp [hSix, hGone, bind, Except.bind, pure,
            Except.pure]
      | ok bytes =>
          cases hDecoded : Utf8.decode bytes with
          | error error =>
              have hSix : t.readText ((root.child "net").child "tcp6") =
                  .error (.undecodable error) := by
                simp only [Tree.readText, hRead, hDecoded]
              simp [hSix, bind, Except.bind]
          | ok six =>
              have hSix : t.readText ((root.child "net").child "tcp6") =
                  .ok (unifyNewlines six) := by
                simp only [Tree.readText, hRead, hDecoded]
              simp [hSix, bind, Except.bind, pure, Except.pure]

/-- No more connections are counted than the tables have lines. -/
theorem known_le {four six : List Char} (state : TcpState) (version : IpVersion) :
    ((SocketCounts.zero.addTable .four four).addTable .six six).known state version ≤
      (lines four).length + (lines six).length := by
  have hTable (family : IpVersion) (table : List Char) :
      (sockets family table).count ⟨some state, version⟩ ≤ (lines table).length :=
    calc (sockets family table).count ⟨some state, version⟩
        ≤ (sockets family table).length := List.count_le_length
      _ ≤ (lines table).tail.length := List.length_filterMap_le ..
      _ ≤ (lines table).length := by simp
  have hFour := hTable .four four
  have hSix := hTable .six six
  simp only [SocketCounts.addTable, SocketCounts.add, SocketCounts.zero]
  omega

/-- Connections are counted in the first table, and in the second one if it is there. -/
theorem exists_tables {counts : SocketCounts} (h : readSockets t root = .ok counts) :
    ∃ four six, t.readText ((root.child "net").child "tcp") = .ok four ∧
      (t.readText ((root.child "net").child "tcp6") = .ok six ∨ six = []) ∧
      counts = (SocketCounts.zero.addTable .four four).addTable .six six := by
  obtain ⟨four, hFour, h⟩ := bind_eq_ok.mp h
  dsimp only at h
  split at h
  · next text hText =>
      cases h
      exact ⟨four, text, hFour, .inl hText, rfl⟩
  · split at h <;> cases h
    exact ⟨four, [], hFour, .inr rfl, rfl⟩
  · cases h

/-- Tables of a size that a file can have give modest counts. -/
theorem modest_connections (h : ∀ name ∈ ["tcp", "tcp6"], ∀ text,
      t.readText ((root.child "net").child name) = .ok text → (lines text).length ≤ 2 ^ 64)
    {counts : SocketCounts} (hRead : readSockets t root = .ok counts) :
    ∀ w ∈ connectionWrites counts.table, w.value.IsModest := by
  obtain ⟨four, six, hFour, hSix, rfl⟩ := exists_tables hRead
  have hFourRows := h "tcp" (by decide) four hFour
  have hSixRows : (lines six).length ≤ 2 ^ 64 := by
    rcases hSix with hSix | rfl
    · exact h "tcp6" (by decide) six hSix
    · decide
  intro w hw
  simp only [connectionWrites, SocketCounts.table, List.mem_map, List.mem_flatMap] at hw
  obtain ⟨_, ⟨state, -, version, -, rfl⟩, rfl⟩ := hw
  have hKnown := @known_le four six state version
  change (Int.natAbs (Nat.cast _)) < 2 ^ 80
  rw [Int.natAbs_natCast]
  omega

end Network

/-! ## Whole updates -/

namespace Cycle

section Sampled

variable {config : Config} {moment : Moment} {writes : List Write}

theorem sampled_cgroup_eq_ok : sampled config moment .cgroup = .ok writes ↔
    ∃ snapshot, Cgroup.read moment.tree config.cgroupRoot = .ok snapshot ∧
      snapshot.writes = writes := by
  simp only [sampled]
  cases Cgroup.read moment.tree config.cgroupRoot <;> simp

theorem sampled_host_eq_ok : sampled config moment .host = .ok writes ↔
    ∃ found, Host.read moment.tree config.procRoot Host.defaultTickRate = .ok found ∧
      found.1.writes = writes := by
  simp only [sampled]
  cases Host.read moment.tree config.procRoot Host.defaultTickRate <;> simp

theorem sampled_tcp_eq_ok : sampled config moment .tcp = .ok writes ↔
    ∃ counts, Network.readSockets moment.tree config.procRoot = .ok counts ∧
      Network.connectionWrites counts.table = writes := by
  simp only [sampled]
  cases Network.readSockets moment.tree config.procRoot <;> simp

/-- The traffic is sampled just if the interface is read; without it nothing is written. -/
theorem sampled_net_eq_ok : sampled config moment .net = .ok writes ↔
    ∃ found, Network.read moment.tree config.networkRoot config.interface = .ok found ∧
      (found.map (·.writes)).getD [] = writes := by
  simp only [sampled]
  cases Network.read moment.tree config.networkRoot config.interface <;> simp

end Sampled

/-- Files in which no number is out of proportion: integer literals have 64 bits, and tables have as
many rows as a file can have at most, for its bytes are counted in 64 bits. What the interface has
in place of its directory can be told. -/
structure Proportionate (config : Config) (t : Tree) : Prop where
  literals : ∀ category p text, Reads config t category p → t.readLossy p = .ok text →
    HasSmallLiterals text
  rows : ∀ p text, Reads config t .tcp p → t.readText p = .ok text → (lines text).length ≤ 2 ^ 64
  statistics : config.interface ≠ "" → ∃ answer, t.isDirectory config.statistics = .ok answer

variable {config : Config} {moment : Moment} {category : Category}

theorem Proportionate.smallFiles (h : Proportionate config moment.tree) :
    Cgroup.SmallFiles moment.tree config.cgroupRoot := fun _ hName text hText =>
  h.literals _ _ text (.cgroupFile hName) (Cgroup.readLossy_of_text? hText)

/-- Whatever is written of such files can be written. The processes are another matter, for what is
exported of them is added up. -/
theorem Proportionate.modest_writes (h : Proportionate config moment.tree)
    (hCategory : category ≠ .process) {writes : List Write}
    (hSampled : sampled config moment category = .ok writes) :
    ∀ w ∈ writes, w.value.IsModest := by
  cases category with
  | process => exact absurd rfl hCategory
  | cgroup =>
      obtain ⟨snapshot, hRead, rfl⟩ := sampled_cgroup_eq_ok.mp hSampled
      exact Cgroup.modest_writes h.smallFiles hRead
  | host =>
      obtain ⟨found, hRead, rfl⟩ := sampled_host_eq_ok.mp hSampled
      exact Host.modest_writes (fun text => h.literals _ _ text .hostMemory) hRead
  | tcp =>
      obtain ⟨counts, hRead, rfl⟩ := sampled_tcp_eq_ok.mp hSampled
      refine Network.modest_connections (fun name hName text => h.rows _ text ?_) hRead
      simp only [List.mem_cons, List.not_mem_nil, or_false] at hName
      rcases hName with rfl | rfl
      · exact .sockets
      · exact .laterSockets
  | net =>
      obtain ⟨found, hRead, rfl⟩ := sampled_net_eq_ok.mp hSampled
      cases found with
      | none => exact fun _ hw => absurd hw List.not_mem_nil
      | some snapshot =>
          exact Network.modest_writes
            (fun counter text => h.literals _ _ text (.counter counter)) hRead

/-- A cycle reports success for a category just if its sample can be taken. -/
theorem Proportionate.mem_succeeded_iff (h : Proportionate config moment.tree)
    (hCategory : category ≠ .process) (state : State) (outcome : Bool) :
    (category, outcome) ∈ (run config moment state).succeeded ↔
      (outcome = true ↔ ∃ writes, sampled config moment category = .ok writes) := by
  have hTurn : category ∈ categories config :=
    (mem_categories config).mpr fun hProcess => absurd hProcess hCategory
  have hFailure : (failure? config moment category).isNone ↔
      ∃ writes, sampled config moment category = .ok writes := by
    unfold failure?
    cases hSampled : sampled config moment category with
    | error failure => simp
    | ok writes =>
        have hNone : writes.findSome? Write.error? = none := by
          refine List.findSome?_eq_none_iff.mpr fun w hw => ?_
          exact Write.error?_eq_none.mpr (h.modest_writes hCategory hSampled w hw).exists_toReal
        simp [hNone]
  rw [mem_succeeded, ← hFailure, Bool.eq_iff_iff]
  simp [hTurn]

/-- In a cycle over files without numbers out of proportion the control group succeeds just if its
root is a directory, the sockets just if their tables can be read, the second of which may be
missing, and the host and the network always. Nothing else that the files say, or fail to say, makes
a category fail, and the state before the cycle has no say in it. -/
theorem succeeded_of_proportionate (h : Proportionate config moment.tree) (state : State)
    (outcome : Bool) :
    ((.cgroup, outcome) ∈ (run config moment state).succeeded ↔
      (outcome = true ↔ moment.tree.isDirectory config.cgroupRoot = .ok true)) ∧
    ((.host, outcome) ∈ (run config moment state).succeeded ↔ outcome = true) ∧
    ((.tcp, outcome) ∈ (run config moment state).succeeded ↔
      (outcome = true ↔ Network.HasTables moment.tree config.procRoot)) ∧
    ((.net, outcome) ∈ (run config moment state).succeeded ↔ outcome = true) := by
  have hGroup : (∃ writes, sampled config moment .cgroup = .ok writes) ↔
      moment.tree.isDirectory config.cgroupRoot = .ok true := by
    constructor
    · rintro ⟨writes, hSampled⟩
      obtain ⟨snapshot, hRead, -⟩ := sampled_cgroup_eq_ok.mp hSampled
      exact (Cgroup.read_eq_ok.mp hRead).1
    · intro hRoot
      obtain ⟨snapshot, hRead⟩ :=
        (Cgroup.exists_read_iff hRoot).mpr (Cgroup.not_tooLarge_of_small h.smallFiles)
      exact ⟨_, sampled_cgroup_eq_ok.mpr ⟨snapshot, hRead, rfl⟩⟩
  have hHost : ∃ writes, sampled config moment .host = .ok writes := by
    obtain ⟨found, hRead⟩ := Host.exists_read moment.tree config.procRoot
    exact ⟨_, sampled_host_eq_ok.mpr ⟨found, hRead, rfl⟩⟩
  have hSockets : (∃ writes, sampled config moment .tcp = .ok writes) ↔
      Network.HasTables moment.tree config.procRoot := by
    rw [← Network.exists_readSockets_iff]
    simp only [sampled_tcp_eq_ok]
    exact ⟨fun ⟨_, counts, hRead, _⟩ => ⟨counts, hRead⟩, fun ⟨counts, hRead⟩ =>
      ⟨_, counts, hRead, rfl⟩⟩
  have hNetwork : ∃ writes, sampled config moment .net = .ok writes := by
    obtain ⟨found, hRead⟩ := Network.exists_read_iff.mpr h.statistics
    exact ⟨_, sampled_net_eq_ok.mpr ⟨found, hRead, rfl⟩⟩
  refine ⟨?_, ?_, ?_, ?_⟩
  · rw [h.mem_succeeded_iff (by decide), hGroup]
  · rw [h.mem_succeeded_iff (by decide)]
    simp [hHost]
  · rw [h.mem_succeeded_iff (by decide), hSockets]
  · rw [h.mem_succeeded_iff (by decide)]
    simp [hNetwork]

/-- Files that say nothing as they should: keys without values, words in place of numbers, a period
of zero, a table of times without its first line, and short rows of sockets. -/
def untidyFiles : List (List String × String) :=
  [(["sys", "fs", "cgroup", "cpu.stat"], "usage_usec many\nnr_periods\n"),
    (["sys", "fs", "cgroup", "cpu.max"], "100000 0\n"),
    (["sys", "fs", "cgroup", "memory.max"], "1 2\n"),
    (["proc", "stat"], "cpu0 1 2 3\n"),
    (["proc", "net", "tcp"], "  sl\n   0: 00000000:0016\n   1:\n")]

def untidyMoment : Moment :=
  ⟨⟨[(["sys"], .directory), (["sys", "fs"], .directory), (["sys", "fs", "cgroup"], .directory),
      (["proc"], .directory), (["proc", "net"], .directory)] ++
    untidyFiles.map fun file => (file.1, .file (Utf8.asciiBytes file.2.toList))⟩, 4096, 0.0, 0.0⟩

/-- There is no large number in the untidy files. -/
theorem proportionate_untidy : Proportionate Config.plain untidyMoment.tree := by
  have hText {p : Path} {text : List Char} (h : untidyMoment.tree.readLossy p = .ok text) :
      HasSmallLiterals text ∧ (lines text).length ≤ 2 ^ 64 := by
    have hFiles : ∀ file ∈ untidyFiles,
        let text := unifyNewlines (Utf8.decodeLossy (Utf8.asciiBytes file.2.toList))
        HasSmallLiterals text ∧ (lines text).length ≤ 2 ^ 64 := by decide +kernel
    unfold Tree.readLossy at h
    split at h
    · next bytes hRead =>
        cases h
        obtain ⟨place, hEntry⟩ := Tree.exists_entry_of_read hRead
        rcases List.mem_append.mp hEntry with hDirectory | hFile
        · simp at hDirectory
        · obtain ⟨file, hMem, hSame⟩ := List.mem_map.mp hFile
          cases hSame
          exact hFiles file hMem
    · cases h
  exact ⟨fun _ _ _ _ h => (hText h).1,
    fun _ _ _ h => (hText (Tree.readLossy_of_readText h)).2, fun _ => ⟨false, rfl⟩⟩

/-- All four categories succeed in spite of this. -/
theorem succeeded_of_untidyFiles : Proportionate Config.plain untidyMoment.tree ∧
    ∀ state : State, ∀ category ∈ [Category.cgroup, .host, .tcp, .net],
      (category, true) ∈ (run Config.plain untidyMoment state).succeeded := by
  refine ⟨proportionate_untidy, fun state => ?_⟩
  obtain ⟨hGroup, hHost, hSockets, hNetwork⟩ :=
    succeeded_of_proportionate proportionate_untidy state true
  have hTables : Network.HasTables untidyMoment.tree Config.plain.procRoot :=
    ⟨⟨_, rfl⟩, .inr rfl⟩
  intro category hCategory
  simp only [List.mem_cons, List.not_mem_nil, or_false] at hCategory
  rcases hCategory with rfl | rfl | rfl | rfl
  · exact hGroup.mpr (iff_of_true rfl rfl)
  · exact hHost.mpr rfl
  · exact hSockets.mpr (iff_of_true rfl hTables)
  · exact hNetwork.mpr rfl

end Cycle

end PodGauges
