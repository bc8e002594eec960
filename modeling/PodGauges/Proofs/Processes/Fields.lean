import Mathlib
import PodGauges.Processes.Sample
import PodGauges.Proofs.Dump
import PodGauges.Proofs.Except

/-! The counters of a process as the kernel writes them and as they are read. The name of a process
stands as it is in two of its files. It may hold all bytes but a line feed, so brackets, blanks and
what looks like other lines too. -/
namespace PodGauges.Processes

open File Number Text

/-! ## What the kernel writes -/

/-- A field of a status line: a letter for the state, or an integer. -/
structure IsField (field : List Char) : Prop where
  ne_nil : field ≠ []
  char : ∀ c ∈ field, c.isAlphanum ∨ c = '-'

/-- The fields of a status line. Those of which only the place matters may be any. -/
structure KernelStat where
  front : List (List Char)
  user : UInt64
  system : UInt64
  childUser : UInt64
  childSystem : UInt64
  between : List (List Char)
  start : UInt64
  back : List (List Char)
  delays : UInt64
  rest : List (List Char)
  length_front : front.length = 11
  length_between : between.length = 4
  length_back : back.length = 19
  isField : ∀ field ∈ front ++ between ++ back ++ rest, IsField field

/-- What is known of a process. -/
structure KernelProcess where
  name : List UInt8
  stat : KernelStat
  virtual : UInt64
  resident : UInt64
  otherPages : List UInt64
  swap : UInt64
  io : String → UInt64
  length_otherPages : otherPages.length = 5

/-- Fields with a space between each two of them. -/
def spaced (fields : List (List Char)) : List UInt8 := Utf8.asciiBytes ([' '].intercalate fields)

def digits (n : UInt64) : List Char := Nat.toDigits 10 n.toNat

/-- The fields behind the name, in the order in which they are written. -/
def KernelStat.fields (stat : KernelStat) : List (List Char) :=
  stat.front ++ [stat.user, stat.system, stat.childUser, stat.childSystem].map digits ++
    stat.between ++ digits stat.start :: stat.back ++ digits stat.delays :: stat.rest

namespace KernelProcess

variable (process : KernelProcess)

/-- The status line: the number, the name in brackets and the fields. -/
def statBytes (pid : Nat) : List UInt8 :=
  Utf8.asciiBytes (Nat.toDigits 10 pid) ++ [32, 40] ++ process.name ++ [41, 32] ++
    spaced process.stat.fields ++ [10]

/-- All page counts, in the order in which they are written. -/
def pageFields : List (List Char) :=
  (process.virtual :: process.resident :: process.otherPages).map digits

def statmBytes : List UInt8 := spaced process.pageFields ++ [10]

/-- The line of the name, and rows behind it. -/
def statusBytes (rows : List (List UInt8)) : List UInt8 :=
  Utf8.encode "Name:\t" ++ process.name ++ 10 :: Dump.joined rows

end KernelProcess

/-- The traffic counters by their keys. -/
def ioKeys : List (IoCounter × String) :=
  [(.charsRead, "rchar:"), (.charsWritten, "wchar:"), (.readCalls, "syscr:"),
   (.writeCalls, "syscw:"), (.bytesRead, "read_bytes:"), (.bytesWritten, "write_bytes:"),
   (.cancelledBytes, "cancelled_write_bytes:")]

/-- The files of a process. Those of several lines may have other lines among them. -/
structure HoldsProcess (t : Tree) (root : Path) (pid : Nat) (process : KernelProcess) : Prop where
  stat : t.read ((root.child (String.ofList (Nat.toDigits 10 pid))).child "stat") =
    .ok (process.statBytes pid)
  statm : t.read ((root.child (String.ofList (Nat.toDigits 10 pid))).child "statm") =
    .ok process.statmBytes
  status : ∃ rows, t.read ((root.child (String.ofList (Nat.toDigits 10 pid))).child "status") =
      .ok (process.statusBytes rows) ∧
    Dump.IsDump ["VmSwap:"] (fun _ => some process.swap) rows
  io : ∃ rows, t.read ((root.child (String.ofList (Nat.toDigits 10 pid))).child "io") =
      .ok (Dump.joined rows) ∧
    Dump.IsDump (ioKeys.map (·.2)) (fun key => some (process.io key)) rows

/-- A file with a line for the boot time, and with other lines in front of it. -/
def HoldsBootTime (t : Tree) (root : Path) (boot : UInt64) : Prop :=
  ∃ front back, (∀ line ∈ front, 10 ∉ line ∧ ¬ Utf8.asciiBytes "btime".toList <+: line) ∧
    t.read (root.child "stat") =
      .ok (Dump.joined front ++ spaced ["btime".toList, digits boot] ++ 10 :: back)

/-! ## What is to be read of it -/

/-- A sample that shows a process: times of the processor in hundredths of a second, the start
counted from the boot time, and memory in pages of some size. -/
structure ShowsProcess (pageSize : Nat) (sample : Sample) (process : KernelProcess)
    (boot : UInt64) : Prop where
  user : ∃ x, IsNearest x process.stat.user.toNat ∧ sample.cpuUser = x / 100.0
  system : ∃ x, IsNearest x process.stat.system.toNat ∧ sample.cpuSystem = x / 100.0
  start : ∃ x b, IsNearest x process.stat.start.toNat ∧ IsNearest b boot.toNat ∧
    sample.start = some (x / 100.0 + b)
  resident : sample.count .resident = process.resident.toNat * pageSize
  virtual : sample.count .virtual = process.virtual.toNat * pageSize
  swap : sample.count .swap = process.swap.toNat * 1024
  io : ∀ entry ∈ ioKeys, sample.count (.io entry.1) = (process.io entry.2).toNat

/-! ## Fields -/

/-- The name may hold closing brackets, the fields may not. -/
theorem afterName_append {front back : List UInt8} (h : closingBracket ∉ back) :
    afterName (front ++ closingBracket :: back) = back := by
  have hBack : ∀ b ∈ back.reverse, b != closingBracket := fun b hb => by
    simpa using ne_of_mem_of_not_mem (List.mem_reverse.mp hb) h
  rw [afterName, List.reverse_append, List.reverse_cons, List.append_assoc,
    List.takeWhile_append_of_pos hBack]
  simp

theorem byteLines_append {line : List UInt8} (h : 10 ∉ line) (rest : List UInt8) :
    byteLines (line ++ 10 :: rest) = line :: byteLines rest := by
  induction line with
  | nil => rfl
  | cons b line ih =>
      obtain ⟨hb, hLine⟩ := not_or.mp (mt List.mem_cons.mpr h)
      rw [List.cons_append, byteLines, if_neg (Ne.symm hb), ih hLine]

/-- Joined lines are taken apart again. -/
theorem byteLines_joined {front : List (List UInt8)} (h : ∀ line ∈ front, 10 ∉ line)
    (rest : List UInt8) : byteLines (Dump.joined front ++ rest) = front ++ byteLines rest := by
  induction front with
  | nil => rfl
  | cons line front ih =>
      obtain ⟨hLine, hFront⟩ := List.forall_mem_cons.mp h
      rw [Dump.joined, List.flatMap_cons, List.append_assoc, List.append_assoc,
        List.singleton_append, byteLines_append hLine]
      exact congrArg _ (ih hFront)

section Fields

variable {field : List Char} {fields : List (List Char)}

/-- The characters of a field lie between the minus sign and the small letters. -/
theorem IsField.bounds (h : IsField field) {c : Char} (hc : c ∈ field) :
    45 ≤ c.toNat ∧ c.toNat ≤ 122 := by
  rcases h.char c hc with hc | rfl
  · simp only [Char.isAlphanum, Char.isAlpha, Char.isUpper, Char.isLower, Char.isDigit,
      Bool.or_eq_true, Bool.and_eq_true, decide_eq_true_eq, ge_iff_le, UInt32.le_iff_toNat_le] at hc
    have hVal : c.val.toNat = c.toNat := rfl
    simp only [hVal] at hc
    have hLetters : 'A'.val.toNat = 65 ∧ 'Z'.val.toNat = 90 ∧ 'a'.val.toNat = 97 ∧
      'z'.val.toNat = 122 ∧ '0'.val.toNat = 48 ∧ '9'.val.toNat = 57 := by decide
    omega
  · decide

theorem isField_digits (n : UInt64) : IsField (digits n) where
  ne_nil := Nat.toDigits_ne_nil
  char c hc := .inl (by simp [Char.isAlphanum, isDigit_of_mem_toDigits hc])

theorem toNat_le_of_isAsciiBlank {c : Char} (h : isAsciiBlank c) : c.toNat ≤ 32 := by
  simp only [isAsciiBlank, Bool.or_eq_true, beq_iff_eq, Bool.and_eq_true, decide_eq_true_eq,
    Char.le_def, UInt32.le_iff_toNat_le] at h
  rcases h with rfl | ⟨-, h⟩
  · decide
  · exact h.trans (by decide)

theorem mem_intercalate {sep c : Char} (h : c ∈ [sep].intercalate fields) :
    c = sep ∨ ∃ field ∈ fields, c ∈ field := by
  induction fields with
  | nil => cases h
  | cons field fields ih =>
      cases fields with
      | nil => exact .inr ⟨field, by simp, by simpa using h⟩
      | cons next fields =>
          rw [List.intercalate_cons_cons, List.mem_append, List.mem_append,
            List.mem_singleton] at h
          rcases h with (h | h) | h
          · exact .inr ⟨field, by simp, h⟩
          · exact .inl h
          · rcases ih h with h | ⟨other, hOther, h⟩
            · exact .inl h
            · exact .inr ⟨other, List.mem_cons_of_mem _ hOther, h⟩

variable (h : ∀ field ∈ fields, IsField field)
include h

/-- Fields with spaces between them have no byte but those of fields and spaces. -/
theorem bounds_of_mem_intercalate {c : Char} (hc : c ∈ [' '].intercalate fields) :
    c.toNat = 32 ∨ 45 ≤ c.toNat ∧ c.toNat ≤ 122 := by
  rcases mem_intercalate hc with rfl | ⟨field, hField, hc⟩
  · exact .inl rfl
  · exact .inr ((h field hField).bounds hc)

/-- Bytes below those of fields, but for the space, are not among fields. -/
theorem not_mem_spaced {b : UInt8} (hSpace : b.toNat ≠ 32) (hLow : b.toNat < 45) :
    b ∉ spaced fields := by
  refine Utf8.not_mem_asciiBytes (fun c hc => ?_) fun c hc => ?_
  · have := bounds_of_mem_intercalate h hc
    omega
  · have := bounds_of_mem_intercalate h hc
    omega

/-- The words of the bytes of some fields are these fields. -/
theorem byteWords_spaced {tail : List UInt8}
    (hTail : ∀ c ∈ Utf8.asciiText tail, isAsciiBlank c) :
    byteWords (spaced fields ++ tail) = fields := by
  have hAscii : ∀ c ∈ [' '].intercalate fields, c.toNat < 128 := by
    intro c hc
    have := bounds_of_mem_intercalate h hc
    omega
  have hText : Utf8.asciiText (spaced fields ++ tail) =
      [' '].intercalate fields ++ Utf8.asciiText tail := by
    rw [Utf8.asciiText, List.map_append]
    exact congrArg (· ++ _) (Utf8.asciiText_asciiBytes hAscii)
  rw [byteWords, hText]
  refine runs_intercalate (by decide) (fun field hField => ?_) hTail
  refine ⟨(h field hField).ne_nil, fun c hc hBlank => ?_⟩
  have hLow := ((h field hField).bounds hc).1
  have hHigh := toNat_le_of_isAsciiBlank hBlank
  omega

end Fields

/-! ## The status line -/

namespace KernelStat

variable (stat : KernelStat)

theorem isField_fields : ∀ field ∈ stat.fields, IsField field := by
  have hField := stat.isField
  simp only [List.forall_mem_append] at hField
  obtain ⟨⟨⟨hFront, hBetween⟩, hBack⟩, hRest⟩ := hField
  simp only [fields, List.forall_mem_append, List.forall_mem_cons]
  exact ⟨⟨⟨⟨hFront, by simp [isField_digits]⟩, hBetween⟩, isField_digits _, hBack⟩,
    isField_digits _, hRest⟩

/-- Where the fields that are used stand among all. -/
theorem getElem?_fields : stat.fields[11]? = some (digits stat.user) ∧
    stat.fields[12]? = some (digits stat.system) ∧
    stat.fields[13]? = some (digits stat.childUser) ∧
    stat.fields[14]? = some (digits stat.childSystem) ∧
    stat.fields[19]? = some (digits stat.start) ∧ stat.fields[39]? = some (digits stat.delays) := by
  simp [fields, List.getElem?_append, stat.length_front, stat.length_between, stat.length_back]

/-- From its fields a process is accounted for. -/
theorem ofBytes?_eq {bytes : List UInt8} (h : byteWords (fieldBytes bytes) = stat.fields) :
    ∃ start user system, IsNearest start stat.start.toNat ∧ IsNearest user stat.user.toNat ∧
      IsNearest system stat.system.toNat ∧
      Stat.ofBytes? bytes = some ⟨start, some (user, system)⟩ := by
  obtain ⟨hUser, hSystem, hChildUser, hChildSystem, hStart, hDelays⟩ := stat.getElem?_fields
  obtain ⟨user, hUserNearest, hUserReal⟩ := exists_real?_toDigits stat.user
  obtain ⟨system, hSystemNearest, hSystemReal⟩ := exists_real?_toDigits stat.system
  obtain ⟨_, _, hChildUserReal⟩ := exists_real?_toDigits stat.childUser
  obtain ⟨_, _, hChildSystemReal⟩ := exists_real?_toDigits stat.childSystem
  obtain ⟨start, hStartNearest, hStartReal⟩ := exists_real?_toDigits stat.start
  obtain ⟨_, _, hDelaysReal⟩ := exists_real?_toDigits stat.delays
  have hLength : ¬ stat.fields.length < requiredFields := by
    have hAll : stat.fields.length = 40 + stat.rest.length := by
      simp [fields, stat.length_front, stat.length_between, stat.length_back]
      omega
    have hRequired : requiredFields = 37 := rfl
    omega
  refine ⟨start, user, system, hStartNearest, hUserNearest, hSystemNearest, ?_⟩
  unfold Stat.ofBytes?
  simp only [h, if_neg hLength, hUser, hSystem, hChildUser, hChildSystem, hStart, hDelays, digits,
    Option.bind_some, hUserReal, hSystemReal, hChildUserReal, hChildSystemReal, hStartReal,
    hDelaysReal]
  rfl

end KernelStat

section Files

variable {process : KernelProcess} {pid : Nat}

/-- Whatever the name is, the fields behind it are found. -/
theorem byteWords_statBytes :
    byteWords (fieldBytes (process.statBytes pid)) = process.stat.fields := by
  have hField := process.stat.isField_fields
  have hOpen : closingBracket ∉ 32 :: (spaced process.stat.fields ++ [10]) := by
    have hFields : closingBracket ∉ spaced process.stat.fields :=
      not_mem_spaced hField (by decide) (by decide)
    simpa [closingBracket] using hFields
  have hSplit : process.statBytes pid =
      (Utf8.asciiBytes (Nat.toDigits 10 pid) ++ [32, 40] ++ process.name) ++
        closingBracket :: 32 :: (spaced process.stat.fields ++ [10]) := by
    simp [KernelProcess.statBytes, closingBracket]
  rw [hSplit, fieldBytes, afterName_append hOpen]
  exact byteWords_spaced hField fun c hc => by rw [List.mem_singleton.mp hc]; rfl

/-- Of the one line of the page counts all words are numbers. -/
theorem pageCounts?_statmBytes : pageCounts? process.statmBytes =
    some ((process.virtual.toNat : Int), (process.resident.toNat : Int)) := by
  have hField : ∀ field ∈ process.pageFields, IsField field :=
    List.forall_mem_map.mpr fun n _ => isField_digits n
  have hLine : process.statmBytes.takeWhile (· != 10) = spaced process.pageFields := by
    have hFeed : ∀ b ∈ spaced process.pageFields, b != 10 := fun b hb =>
      bne_iff_ne.mpr (ne_of_mem_of_not_mem hb (not_mem_spaced hField (by decide) (by decide)))
    rw [KernelProcess.statmBytes, List.takeWhile_append_of_pos hFeed]
    exact List.append_nil _
  have hWords : byteWords (spaced process.pageFields) = process.pageFields := by
    simpa using @byteWords_spaced _ hField [] (by simp [Utf8.asciiText])
  have hInteger (n : UInt64) : integer? (digits n) = some (n.toNat : Int) :=
    integer?_toDigits (toNat_lt_of_maxDecimalDigits n)
  obtain ⟨a, others, hOthers, hFour⟩ := List.length_eq_succ_iff.mp process.length_otherPages
  obtain ⟨b, c, d, e, rfl⟩ := List.length_eq_four.mp hFour
  rw [pageCounts?, hLine, hWords, KernelProcess.pageFields, ← hOthers]
  simp [hInteger]

/-- The boot time is that of the line with its mark. -/
theorem exists_bootTime? {t : Tree} {root : Path} {boot : UInt64} (h : HoldsBootTime t root boot) :
    ∃ bytes b, t.read (root.child "stat") = .ok bytes ∧ bootTime? bytes = some b ∧
      IsNearest b boot.toNat := by
  obtain ⟨front, back, hFront, hRead⟩ := h
  obtain ⟨b, hNearest, hReal⟩ := exists_real?_toDigits boot
  have hField : ∀ field ∈ ["btime".toList, digits boot], IsField field :=
    List.forall_mem_cons.mpr ⟨⟨by decide, by simp⟩, by simp [isField_digits]⟩
  have hPrefix : bootMark.isPrefixOf (spaced ["btime".toList, digits boot]) := by
    rw [List.isPrefixOf_iff_prefix, spaced, List.intercalate_cons_cons, List.append_assoc,
      Utf8.asciiBytes, List.map_append]
    exact List.prefix_append _ _
  have hNone : front.find? bootMark.isPrefixOf = none := by
    refine List.find?_eq_none.mpr fun line hLine => ?_
    rw [List.isPrefixOf_iff_prefix]
    exact (hFront line hLine).2
  have hWords : byteWords (spaced ["btime".toList, digits boot]) =
      ["btime".toList, digits boot] := by
    simpa using @byteWords_spaced _ hField [] (by simp [Utf8.asciiText])
  refine ⟨_, b, hRead, ?_, hNearest⟩
  rw [bootTime?, List.append_assoc, byteLines_joined fun line hLine => (hFront line hLine).1,
    byteLines_append (not_mem_spaced hField (by decide) (by decide)), List.find?_append, hNone,
    Option.none_or, List.find?_cons_of_pos hPrefix, Option.bind_some, hWords]
  exact hReal

end Files

/-! ## Dumps -/

theorem keyOf?_swapKey (k : Unit) :
    Dump.keyOf? [()] (fun _ => swapKey) swapKey.toList = some k := rfl

/-- What the name line says of swap, if anything, does not count beside the rows behind it. -/
theorem swapBytes_statusBytes {process : KernelProcess} {rows : List (List UInt8)}
    (h : Dump.IsDump ["VmSwap:"] (fun _ => some process.swap) rows) :
    swapBytes (unifyNewlines (Utf8.decodeLossy (process.statusBytes rows))) =
      process.swap.toNat * 1024 := by
  have hLast := @Dump.last?_of_isDump Unit [()] (fun _ => swapKey) keyOf?_swapKey
    (fun _ => by decide) _ _ _ h ()
  rw [swapBytes, Dump.readings_unifyNewlines, KernelProcess.statusBytes,
    Dump.readings_decodeLossy_append, Dump.last?_append, hLast]
  rfl

theorem IoCounter.keyOf?_name (counter : IoCounter) :
    Dump.keyOf? all (·.name ++ ":") (counter.name ++ ":").toList = some counter := by
  cases counter <;> decide

theorem IoCounter.isWord_name (counter : IoCounter) : IsWord (counter.name ++ ":").toList := by
  cases counter <;> decide

theorem ioCounts_joined {io : String → UInt64} {rows : List (List UInt8)}
    (h : Dump.IsDump (ioKeys.map (·.2)) (fun key => some (io key)) rows) (counter : IoCounter) :
    ioCounts (unifyNewlines (Utf8.decodeLossy (Dump.joined rows))) counter =
      (io (counter.name ++ ":")).toNat := by
  have hLast := Dump.last?_of_isDump IoCounter.keyOf?_name IoCounter.isWord_name h counter
  have hKeys : IoCounter.ofWord? = Dump.keyOf? IoCounter.all (·.name ++ ":") := rfl
  rw [ioCounts, hKeys, Dump.readings_unifyNewlines, hLast]
  rfl

/-! ## The whole process -/

section Process

variable {pageSize : Nat} {t : Tree} {root : Path} {pid : Nat} {process : KernelProcess}
  {boot : UInt64}

theorem textOf_eq {name : String} {bytes : List UInt8}
    (h : t.read ((root.child (String.ofList (Nat.toDigits 10 pid))).child name) = .ok bytes) :
    textOf t root pid name = unifyNewlines (Utf8.decodeLossy bytes) := by
  have hDirectory : directory root pid = root.child (String.ofList (Nat.toDigits 10 pid)) := rfl
  rw [textOf, Tree.readLossy, hDirectory, h]

/-- What the files tell of the process as a whole is read back. -/
theorem exists_accounting (hLimit : pid < 2 ^ 31) (h : HoldsProcess t root pid process)
    (hBoot : HoldsBootTime t root boot) :
    ∃ user system start b, IsNearest user process.stat.user.toNat ∧
      IsNearest system process.stat.system.toNat ∧ IsNearest start process.stat.start.toNat ∧
      IsNearest b boot.toNat ∧ Accounting.read t root pid =
        .ok ⟨some (user / 100.0, system / 100.0), some (start / 100.0 + b),
          some ((process.virtual.toNat : Int), (process.resident.toNat : Int))⟩ := by
  have hDirectory : directory root pid = root.child (String.ofList (Nat.toDigits 10 pid)) := rfl
  obtain ⟨start, user, system, hStart, hUser, hSystem, hStat⟩ :=
    process.stat.ofBytes?_eq (@byteWords_statBytes process pid)
  obtain ⟨bytes, b, hRead, hTime, hNearest⟩ := exists_bootTime? hBoot
  refine ⟨user, system, start, b, hUser, hSystem, hStart, hNearest, ?_⟩
  have hNotNegative : ¬ (pid : Int) < 0 := by omega
  have hBelow : (pid : Int) < pidLimit := by
    change (pid : Int) < 0x80000000
    omega
  have hBeside {path : Path} {bytes : List UInt8} (hPath : t.read path = .ok bytes) :
      Accounting.beside t pid (process.statBytes pid) path = .ok (some bytes) := by
    rw [Accounting.beside, hPath]
  have hOfStat : Accounting.read t root pid =
      Accounting.ofStat t root pid (process.statBytes pid) ⟨start, some (user, system)⟩ := by
    rw [Accounting.read, if_neg hNotNegative, if_neg (Int.not_le.mpr hBelow), hDirectory, h.stat]
    dsimp only
    rw [hStat]
  rw [hOfStat, Accounting.ofStat, hDirectory, hBeside h.statm, hBeside hRead]
  simp only [bind, Except.bind, pure, Except.pure, Option.map_some, Option.bind_some, hTime,
    pageCounts?_statmBytes, ticksPerSecond]

/-- What the kernel has written of a process is read back, whatever its name. -/
theorem read_of_holdsProcess (hLimit : pid < 2 ^ 31) (h : HoldsProcess t root pid process)
    (hBoot : HoldsBootTime t root boot) :
    ∃ sample, Sample.read pageSize t root pid = .ok sample ∧
      ShowsProcess pageSize sample process boot := by
  obtain ⟨user, system, start, b, hUser, hSystem, hStart, hNearest, hKnown⟩ :=
    exists_accounting hLimit h hBoot
  obtain ⟨rows, hStatus, hSwap⟩ := h.status
  obtain ⟨ioRows, hIo, hCounts⟩ := h.io
  refine ⟨_, bind_eq_ok.mpr ⟨_, hKnown, rfl⟩, ⟨user, hUser, rfl⟩, ⟨system, hSystem, rfl⟩,
    ⟨start, b, hStart, hNearest, rfl⟩, rfl, rfl, ?_, ?_⟩
  · rw [textOf_eq hStatus, swapBytes_statusBytes hSwap]
  · intro entry hEntry
    have hKey : entry.1.name ++ ":" = entry.2 := by
      revert entry
      decide
    change ioCounts (textOf t root pid "io") entry.1 = _
    rw [textOf_eq hIo, ioCounts_joined hCounts, hKey]

end Process

/-- A process whose name closes its bracket, opens one more and goes on with a line of its own. -/
def hostileProcess : KernelProcess where
  name := Utf8.asciiBytes "x) R (\rVmSwap: 7".toList
  stat :=
    { front := ['S'] :: List.replicate 10 ['0']
      user := 150
      system := 50
      childUser := 0
      childSystem := 0
      between := List.replicate 4 ['0']
      start := 100
      back := List.replicate 19 ['0']
      delays := 0
      rest := []
      length_front := rfl
      length_between := rfl
      length_back := rfl
      isField := by
        have hZero : IsField ['0'] := ⟨by decide, by simp⟩
        have hState : IsField ['S'] := ⟨by decide, by simp⟩
        simp [hZero, hState] }
  virtual := 1024
  resident := 256
  otherPages := List.replicate 5 0
  swap := 12
  io := fun _ => 4096
  length_otherPages := rfl

def hostileStatus : List (List UInt8) :=
  [Utf8.encode (String.ofList ("VmSwap:".toList ++ (['\t', ' '] ++ (digits 12 ++ " kB".toList))))]

def hostileIo : List (List UInt8) :=
  (ioKeys.map (·.2)).map fun key =>
    Utf8.encode (String.ofList (key.toList ++ ' ' :: Nat.toDigits 10 4096))

def hostileFiles : Tree :=
  ⟨[(["proc"], .directory), (["proc", "7"], .directory),
    (["proc", "7", "stat"], .file (hostileProcess.statBytes 7)),
    (["proc", "7", "statm"], .file hostileProcess.statmBytes),
    (["proc", "7", "status"], .file (hostileProcess.statusBytes hostileStatus)),
    (["proc", "7", "io"], .file (Dump.joined hostileIo)),
    (["proc", "stat"],
      .file (spaced ["btime".toList, digits 1700000000] ++ [10]))]⟩

/-- Neither the bracket in the name nor the line in it is taken for what it looks like. -/
theorem read_of_hostileFiles :
    7 < 2 ^ 31 ∧ HoldsProcess hostileFiles ⟨.root, ["proc"]⟩ 7 hostileProcess ∧
    HoldsBootTime hostileFiles ⟨.root, ["proc"]⟩ 1700000000 ∧
    ∃ sample, Sample.read 4096 hostileFiles ⟨.root, ["proc"]⟩ 7 = .ok sample ∧
      sample.count .swap = 12 * 1024 ∧ sample.count .resident = 256 * 4096 := by
  have hStatus : Dump.IsDump ["VmSwap:"] (fun _ => some hostileProcess.swap) hostileStatus := by
    have hEntry : Dump.IsEntry "VmSwap:" 12 (Utf8.encode (String.ofList
        ("VmSwap:".toList ++ (['\t', ' '] ++ (digits 12 ++ " kB".toList))))) :=
      .intro (by simp) (by simp) (by decide) (by decide)
    constructor
    · intro row hRow
      rw [List.mem_singleton.mp hRow]
      exact .inl ⟨"VmSwap:", by simp, 12, rfl, hEntry⟩
    · intro key hKey n hNumber
      rw [List.mem_singleton.mp hKey]
      cases hNumber
      exact ⟨_, List.mem_singleton.mpr rfl, hEntry⟩
  have hIo : Dump.IsDump (ioKeys.map (·.2)) (fun key => some (hostileProcess.io key))
      hostileIo := by
    constructor
    · intro row hRow
      obtain ⟨key, hKey, rfl⟩ := List.mem_map.mp hRow
      exact .inl ⟨key, hKey, 4096, rfl, Dump.isEntry_space key 4096⟩
    · intro key hKey n hNumber
      cases hNumber
      exact ⟨_, List.mem_map_of_mem hKey, Dump.isEntry_space key 4096⟩
  have hHolds : HoldsProcess hostileFiles ⟨.root, ["proc"]⟩ 7 hostileProcess :=
    ⟨rfl, rfl, ⟨_, rfl, hStatus⟩, ⟨_, rfl, hIo⟩⟩
  have hBoot : HoldsBootTime hostileFiles ⟨.root, ["proc"]⟩ 1700000000 := ⟨[], [], by simp, rfl⟩
  obtain ⟨sample, hRead, hShows⟩ := read_of_holdsProcess (by decide) hHolds hBoot
  exact ⟨by decide, hHolds, hBoot, sample, hRead, hShows.swap, hShows.resident⟩

end PodGauges.Processes
