import PodGauges.File.Text
import PodGauges.Host.Cpu
import PodGauges.Host.Memory
import PodGauges.Log

/-!
Sampling the host. CPU times and memory come from two files; one that cannot be used is logged and
leaves its own half of the snapshot unseen.
-/

namespace PodGauges.Host

open File Number

/-- What was seen of the host. -/
structure Snapshot where
  cpu : Option CpuSeconds
  memory : MemoryAmount → Option Int

/-- The CPU times, or the record of why there are none. A tick rate that cannot divide is not a
fault of the file and fails the whole sample. -/
def readCpu (t : Tree) (root : Path) (rate : Int) :
    Except CpuError (Option CpuSeconds × List Log.Record) :=
  let path := root.child "stat"
  let unseen (error : String) : Option CpuSeconds × List Log.Record :=
    (none, [Log.failure .host "reading host cpu times failed" error none
      [("path", path.toString)]])
  match t.readLossy path with
  | .error error => .ok (unseen error.message)
  | .ok text =>
    match cpuSeconds text rate with
    | .ok seconds => .ok (some seconds, [])
    | .error .noAggregateLine => .ok (unseen CpuError.noAggregateLine.message)
    | .error error => .error error

/-- The memory amounts, or the record of why there are none. -/
def readMemory (t : Tree) (root : Path) : (MemoryAmount → Option Int) × List Log.Record :=
  let path := root.child "meminfo"
  match t.readLossy path with
  | .ok text => (fun amount => some (memoryBytes text amount), [])
  | .error error =>
    (fun _ => none, [Log.failure .host "reading host memory failed" error.message none
      [("path", path.toString)]])

/-- The rate used for a setting; none, or zero, asks for the system's. -/
def effectiveRate (setting : Option Int) (reported : Option Int) : Int :=
  match setting with
  | some rate => if rate = 0 then clockTicks reported else rate
  | none => clockTicks reported

/-- Both halves of a snapshot, and what was logged. -/
def read (t : Tree) (root : Path) (rate : Int) : Except CpuError (Snapshot × List Log.Record) := do
  let (cpu, cpuLog) ← readCpu t root rate
  let (memory, memoryLog) := readMemory t root
  return (⟨cpu, memory⟩, cpuLog ++ memoryLog)

end PodGauges.Host
