import PodGauges.Dump
import PodGauges.File.Text
import PodGauges.Processes.Stat

/-!
What is known of one process: processor time, start and page counts from the files that tell
whether the process is there at all, and swap and traffic from two files that are optional.
-/

namespace PodGauges.Processes

open File

/-- The traffic counters of a process. -/
inductive IoCounter where
  | charsRead
  | charsWritten
  | readCalls
  | writeCalls
  | bytesRead
  | bytesWritten
  | cancelledBytes
  deriving DecidableEq, Repr

namespace IoCounter

/-- The counters, in the order in which the kernel writes them. -/
def all : List IoCounter :=
  [.charsRead, .charsWritten, .readCalls, .writeCalls, .bytesRead, .bytesWritten, .cancelledBytes]

/-- The name under which the kernel writes a counter. -/
def name : IoCounter → String
  | .charsRead => "rchar"
  | .charsWritten => "wchar"
  | .readCalls => "syscr"
  | .writeCalls => "syscw"
  | .bytesRead => "read_bytes"
  | .bytesWritten => "write_bytes"
  | .cancelledBytes => "cancelled_write_bytes"

/-- The counter of a line's first word, which ends in a colon. -/
def ofWord? (word : List Char) : Option IoCounter := Dump.keyOf? all (·.name ++ ":") word

end IoCounter

/-- The whole numbers known of a process; memory is in bytes. -/
inductive Counter where
  | resident
  | virtual
  | swap
  | io (counter : IoCounter)
  deriving DecidableEq, Repr

namespace Counter

/-- The counters of a sample, in the order in which they are written to gauges. -/
def all : List Counter := [.resident, .virtual, .swap] ++ IoCounter.all.map .io

end Counter

/-- What is known of a process; what is not is zero, except that a start may be missing. -/
structure Sample where
  cpuUser : Float
  cpuSystem : Float
  start : Option Float
  count : Counter → Int

/-- Why a process has no sample: it is gone, may not be looked at, has ended and was not waited
for, or its status line is there and cannot be opened. -/
inductive SampleError where
  | noSuchProcess (pid : Pid)
  | accessDenied (pid : Pid)
  | zombie (pid : Pid)
  | unopened (error : IoError)
  deriving DecidableEq, Repr

/-- What is given as the cause when a status line cannot be opened. -/
def unopenedCause : String := "'Process' object has no attribute '_cache'"

/-- What the files tell that belong to the process as a whole. -/
structure Accounting where
  cpu : Option (Float × Float)
  start : Option Float
  pages : Option (Int × Int)

namespace Accounting

/-- The accounting of a process whose status line tells nothing. -/
def unknown : Accounting := ⟨none, none, none⟩

/-- Why a status line cannot be read. One whose entry is there is not that of a process gone. -/
def statError (pid : Pid) (isThere : Bool) (error : IoError) : SampleError :=
  if error.error = .permissionDenied ∨ error.error = .operationNotPermitted then .accessDenied pid
  else if error.error = .noSuchProcess then .noSuchProcess pid
  else if error.error = .noSuchFile ∧ !isThere then .noSuchProcess pid
  else .unopened error

/-- What an unreadable file says about the process with a given status line, if it says more than
that the file's own fields are unknown. -/
def fileError? (pid : Pid) (stat : List UInt8) (error : Errno) : Option SampleError :=
  if error = .permissionDenied ∨ error = .operationNotPermitted then some (.accessDenied pid)
  else if isZombieLine stat ∧ (error = .noSuchProcess ∨ error = .noSuchFile) then
    some (.zombie pid)
  else if error = .noSuchProcess then some (.noSuchProcess pid)
  else none

/-- The bytes of a file beside a status line, or none if it only leaves its fields unknown. -/
def beside (t : Tree) (pid : Pid) (stat : List UInt8) (path : Path) :
    Except SampleError (Option (List UInt8)) :=
  match t.read path with
  | .ok bytes => .ok (some bytes)
  | .error error =>
    match fileError? pid stat error with
    | some error => .error error
    | none => .ok none

/-- What a status line and the files beside it tell. The start is counted from the boot time. -/
def ofStat (t : Tree) (root : Path) (pid : Pid) (bytes : List UInt8) (stat : Stat) :
    Except SampleError Accounting := do
  let pages ← beside t pid bytes ((directory root pid).child "statm")
  let boot ← beside t pid bytes (root.child "stat")
  return {
    cpu := stat.cpu.map fun (user, system) => (user / ticksPerSecond, system / ticksPerSecond)
    start := (boot.bind bootTime?).map (stat.start / ticksPerSecond + ·)
    pages := pages.bind pageCounts? }

/-- What the files of a process tell. A status line that cannot be understood, like a number that
is no process's, leaves all unknown. -/
def read (t : Tree) (root : Path) (pid : Pid) : Except SampleError Accounting :=
  let path := (directory root pid).child "stat"
  if pid < 0 then .ok unknown
  else if pidLimit ≤ pid then .error (.noSuchProcess pid)
  else
    match t.read path with
    | .error error => .error (statError pid (t.isPresent path) ⟨error, path.toString⟩)
    | .ok bytes =>
      match Stat.ofBytes? bytes with
      | none => .ok unknown
      | some stat => ofStat t root pid bytes stat

end Accounting

/-- The text of a file of a process; one that cannot be read is empty. -/
def textOf (t : Tree) (root : Path) (pid : Pid) (name : String) : List Char :=
  match t.readLossy ((directory root pid).child name) with
  | .ok text => text
  | .error _ => []

def swapKey : String := "VmSwap:"

/-- Swap usage in bytes, given in kibibytes. -/
def swapBytes (status : List Char) : Int :=
  let readings := Dump.readings (Dump.keyOf? [()] fun _ => swapKey) status
  (Dump.last? () readings).getD 0 * 1024

/-- The traffic counters of a text; those that are not there are zero. -/
def ioCounts (text : List Char) (counter : IoCounter) : Int :=
  (Dump.last? counter (Dump.readings IoCounter.ofWord? text)).getD 0

/-- The sample of a process, where a page of memory has some number of bytes. -/
def Sample.read (pageSize : Nat) (t : Tree) (root : Path) (pid : Pid) :
    Except SampleError Sample := do
  let known ← Accounting.read t root pid
  let (virtual, resident) := known.pages.getD (0, 0)
  let swap := swapBytes (textOf t root pid "status")
  let io := ioCounts (textOf t root pid "io")
  return {
    cpuUser := (known.cpu.map (·.1)).getD 0.0
    cpuSystem := (known.cpu.map (·.2)).getD 0.0
    start := known.start
    count := fun
      | .resident => resident * pageSize
      | .virtual => virtual * pageSize
      | .swap => swap
      | .io counter => io counter }

/-- The samples of some processes, in order. One that is gone, may not be looked at or has ended is
left out; a status line that cannot be opened ends the round. -/
def samples (pageSize : Nat) (t : Tree) (root : Path) : List Pid → Except IoError (List Sample)
  | [] => .ok []
  | pid :: pids =>
    match Sample.read pageSize t root pid with
    | .ok found => (samples pageSize t root pids).map (found :: ·)
    | .error (.unopened error) => .error error
    | .error _ => samples pageSize t root pids

end PodGauges.Processes
