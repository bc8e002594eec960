import PodGauges.Proofs.Cycle.Reading
import PodGauges.Proofs.Text.Utf8

/-! The two files that a process can do without. Each has counters of its own. Whatever becomes of
such a file, the process has a sample or has none as before, and for the same reason; in the sample
only the counters of the file can change. -/
namespace PodGauges.Processes

open File

/-- A file that a process may have or not: the one that tells its swap, or the one that tells its
traffic. -/
inductive OptionalFile where
  | status
  | io
  deriving DecidableEq, Repr

namespace OptionalFile

def name : OptionalFile → String
  | .status => "status"
  | .io => "io"

def path (file : OptionalFile) (root : Path) (pid : Pid) : Path :=
  (directory root pid).child file.name

/-- The counters that a file tells: the swap alone, or the seven of the traffic. -/
def counters : OptionalFile → List Counter
  | .status => [.swap]
  | .io => [.io .charsRead, .io .charsWritten, .io .readCalls, .io .writeCalls, .io .bytesRead,
      .io .bytesWritten, .io .cancelledBytes]

theorem name_inj {file other : OptionalFile} : other.name = file.name ↔ other = file := by
  cases other <;> cases file <;> decide

theorem mem_counters_status {counter : Counter} :
    counter ∈ OptionalFile.status.counters ↔ counter = .swap :=
  List.mem_singleton

theorem mem_counters_io {counter : Counter} :
    counter ∈ OptionalFile.io.counters ↔ ∃ traffic, counter = .io traffic := by
  constructor
  · intro h
    cases counter with
    | io traffic => exact ⟨traffic, rfl⟩
    | resident | virtual | swap => simp [counters] at h
  · rintro ⟨traffic, rfl⟩
    cases traffic <;> simp [counters]

end OptionalFile

/-- Two trees in which all that is looked up for a process is the same but for one optional file.
This file may be there or not, say anything, and fail to open for any reason, in either tree. -/
structure AgreeApartFrom (file : OptionalFile) (t t' : Tree) (root : Path) (pid : Pid) : Prop where
  own : ∀ name ∈ fileNames, name ≠ file.name →
    t'.status ((directory root pid).child name) = t.status ((directory root pid).child name)
  boot : t'.status (root.child "stat") = t.status (root.child "stat")

/-- Two samples that differ in the counters of one file at most. -/
structure SameApartFrom (file : OptionalFile) (s s' : Sample) : Prop where
  cpuUser : s'.cpuUser = s.cpuUser
  cpuSystem : s'.cpuSystem = s.cpuSystem
  start : s'.start = s.start
  count : ∀ counter ∉ file.counters, s'.count counter = s.count counter

section Versions

variable {file : OptionalFile} {pageSize : Nat} {t t' : Tree} {root : Path} {pid : Pid}

/-- No optional file has a say in what is told of the process as a whole. -/
theorem AgreeApartFrom.accounting_eq (h : AgreeApartFrom file t t' root pid) :
    Accounting.read t' root pid = Accounting.read t root pid := by
  apply Accounting.read_congr
  · exact h.own "stat" (by decide) (by cases file <;> decide)
  · exact h.own "statm" (by decide) (by cases file <;> decide)
  · exact h.boot

/-- The other optional file tells the same in both trees. -/
theorem AgreeApartFrom.textOf_eq (h : AgreeApartFrom file t t' root pid) {other : OptionalFile}
    (hOther : other ≠ file) : textOf t' root pid other.name = textOf t root pid other.name := by
  apply textOf_congr
  apply h.own
  · cases other <;> decide
  · exact mt OptionalFile.name_inj.mp hOther

/-- The accounting is in a sample apart from the counters of the optional files, and each of these
files apart from the counters of the other. -/
theorem AgreeApartFrom.sameApartFrom (h : AgreeApartFrom file t t' root pid) (known : Accounting) :
    SameApartFrom file
      (Sample.ofParts pageSize (textOf t root pid "status") (textOf t root pid "io") known)
      (Sample.ofParts pageSize (textOf t' root pid "status") (textOf t' root pid "io") known) where
  cpuUser := rfl
  cpuSystem := rfl
  start := rfl
  count counter hCounter := by
    cases counter with
    | resident | virtual => rfl
    | swap =>
        have hFile : OptionalFile.status ≠ file := by
          rintro rfl
          exact hCounter (OptionalFile.mem_counters_status.mpr rfl)
        exact congrArg swapBytes (h.textOf_eq hFile)
    | io traffic =>
        have hFile : OptionalFile.io ≠ file := by
          rintro rfl
          exact hCounter (OptionalFile.mem_counters_io.mpr ⟨traffic, rfl⟩)
        exact congrArg (ioCounts · traffic) (h.textOf_eq hFile)

/-- A file that cannot be read tells what an empty one does. -/
theorem textOf_of_error {name : String} {error : Errno}
    (h : t.read ((directory root pid).child name) = .error error) :
    textOf t root pid name = [] := by
  simp only [textOf, Tree.readLossy, h]

/-- The counters of a file that cannot be read are zero. -/
theorem Sample.count_of_unread {s : Sample} (h : Sample.read pageSize t root pid = .ok s)
    {error : Errno} (hUnread : t.read (file.path root pid) = .error error) :
    ∀ counter ∈ file.counters, s.count counter = 0 := by
  have hText : textOf t root pid file.name = [] := textOf_of_error hUnread
  intro counter hCounter
  cases file with
  | status =>
      rw [OptionalFile.mem_counters_status.mp hCounter, Sample.count_swap h]
      exact congrArg swapBytes hText
  | io =>
      obtain ⟨traffic, rfl⟩ := OptionalFile.mem_counters_io.mp hCounter
      rw [Sample.count_io h]
      exact congrArg (ioCounts · traffic) hText

/-- Whatever version of an optional file a process has, sampling it fails with the same error, or
gives samples that differ in the counters of this file at most. These are zero where the file cannot
be read. -/
theorem read_of_versions (h : AgreeApartFrom file t t' root pid) :
    (∀ error, Sample.read pageSize t' root pid = .error error ↔
      Sample.read pageSize t root pid = .error error) ∧
    (∀ s s', Sample.read pageSize t root pid = .ok s → Sample.read pageSize t' root pid = .ok s' →
      SameApartFrom file s s') ∧
    ∀ tree ∈ [t, t'], ∀ s error, Sample.read pageSize tree root pid = .ok s →
      tree.read (file.path root pid) = .error error →
        ∀ counter ∈ file.counters, s.count counter = 0 := by
  refine ⟨?_, ?_, ?_⟩
  · intro error
    rw [Sample.read_eq_error, Sample.read_eq_error, h.accounting_eq]
  · intro s s' hRead hRead'
    rw [Sample.read_eq_map] at hRead hRead'
    rw [h.accounting_eq] at hRead'
    obtain ⟨known, hKnown, rfl⟩ := map_eq_ok.mp hRead
    obtain ⟨known', hKnown', rfl⟩ := map_eq_ok.mp hRead'
    cases hKnown.symm.trans hKnown'
    exact h.sameApartFrom known
  · intro tree _ s error hRead hUnread
    exact Sample.count_of_unread hRead hUnread

end Versions

/-- A process with swap, and with something in the place of the file with its traffic. -/
def processWithIo (io : Entry) : Tree :=
  let zeros := (List.replicate 48 (Text.Utf8.asciiBytes " 0".toList)).flatten
  ⟨[(["proc"], .directory), (["proc", "7"], .directory),
    (["proc", "7", "stat"], .file (Text.Utf8.asciiBytes "7 (a) S 1".toList ++ zeros ++ [10])),
    (["proc", "7", "statm"], .file (Text.Utf8.asciiBytes "3 2 0 0 0 0 0\n".toList)),
    (["proc", "7", "status"], .file (Text.Utf8.asciiBytes "VmSwap: 4 kB\n".toList)),
    (["proc", "7", "io"], io)]⟩

/-- Traffic of which one line is no text and one is torn. -/
def tornIo : Entry :=
  .file ([255, 10] ++ Text.Utf8.asciiBytes "rchar: 5\nVmSwap: 9\nwchar:".toList)

theorem agreeApartFrom_processWithIo (io io' : Entry) :
    AgreeApartFrom .io (processWithIo io) (processWithIo io') ⟨.root, ["proc"]⟩ 7 where
  own name hName hOther := by
    have hFiles : fileNames = ["stat", "statm", "status", "io"] := rfl
    simp only [hFiles, List.mem_cons, List.not_mem_nil, or_false] at hName
    rcases hName with rfl | rfl | rfl | rfl
    · rfl
    · rfl
    · rfl
    · exact absurd rfl hOther
  boot := rfl

/-- Without permission to read its traffic a process has the same swap, and no traffic. -/
theorem read_of_versions_deniedIo :
    AgreeApartFrom .io (processWithIo tornIo) (processWithIo (.faulty .permissionDenied))
      ⟨.root, ["proc"]⟩ 7 ∧
    ∃ s s', Sample.read 4096 (processWithIo tornIo) ⟨.root, ["proc"]⟩ 7 = .ok s ∧
      Sample.read 4096 (processWithIo (.faulty .permissionDenied)) ⟨.root, ["proc"]⟩ 7 = .ok s' ∧
      SameApartFrom .io s s' ∧ s'.count .swap = 4096 ∧ s.count (.io .charsRead) = 5 ∧
      s'.count (.io .charsRead) = 0 := by
  have hAgree := agreeApartFrom_processWithIo tornIo (.faulty .permissionDenied)
  obtain ⟨-, hSame, hZero⟩ := read_of_versions hAgree
  obtain ⟨s, hRead, hCounts⟩ : ∃ s,
      Sample.read 4096 (processWithIo tornIo) ⟨.root, ["proc"]⟩ 7 = .ok s ∧
        (s.count .swap, s.count (.io .charsRead)) = (4096, 5) :=
    exists_of_toOption_map (by decide +kernel)
  obtain ⟨s', hRead', -⟩ : ∃ s',
      Sample.read 4096 (processWithIo (.faulty .permissionDenied)) ⟨.root, ["proc"]⟩ 7 = .ok s' ∧
        s'.count .resident = 8192 :=
    exists_of_toOption_map (by decide +kernel)
  obtain ⟨hSwap, hTraffic⟩ := Prod.mk.inj hCounts
  have hApart := hSame s s' hRead hRead'
  refine ⟨hAgree, s, s', hRead, hRead', hApart, ?_, hTraffic, ?_⟩
  · exact (hApart.count .swap (by decide)).trans hSwap
  · exact hZero _ (by simp) s' .permissionDenied hRead' rfl _ (by decide)

end PodGauges.Processes
