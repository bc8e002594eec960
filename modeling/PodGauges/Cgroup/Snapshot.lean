import PodGauges.Cgroup.Cpu
import PodGauges.Cgroup.Memory
import PodGauges.File.Text

/-!
Reading the accounting of one control group from its directory. Each file is optional: one that
cannot be read leaves its own fields unseen.
-/

namespace PodGauges.Cgroup

open File Number

/-- What was seen of one control group. -/
structure Snapshot where
  cpu : Cpu
  memory : Memory

/-- Why a control group could not be read. -/
inductive SnapshotError where
  | missing (root : Path)
  | io (error : IoError)
  | range (error : RangeError)
  deriving DecidableEq, Repr

/-- The words for a failed snapshot; a missing source is named by its root. -/
def SnapshotError.message : SnapshotError → String
  | .missing root => s!"source not found: {root.toString}"
  | .io error => error.message
  | .range error => error.message

/-- The text of one file of the directory, if it can be read. -/
def text? (t : Tree) (root : Path) (name : String) : Option (List Char) :=
  (t.readLossy (root.child name)).toOption

def readCpu (t : Tree) (root : Path) : Except RangeError Cpu := do
  let stat ← match text? t root "cpu.stat" with
    | some text => CpuStat.ofText text
    | none => .ok []
  let limit ← match text? t root "cpu.max" with
    | some text => bandwidth? text
    | none => .ok none
  return ⟨fun s => stat.get? s, limit⟩

def readMemory (t : Tree) (root : Path) : Memory where
  amount a := (text? t root ("memory." ++ a.name)).bind Limit.ofText?
  events := match text? t root "memory.events" with
    | some text => memoryEvents text
    | none => []

/-- The accounting in a directory, which has to exist. -/
def read (t : Tree) (root : Path) : Except SnapshotError Snapshot :=
  match t.isDirectory root with
  | .error error => .error (.io ⟨error, root.toString⟩)
  | .ok false => .error (.missing root)
  | .ok true =>
    match readCpu t root with
    | .error error => .error (.range error)
    | .ok cpu => .ok ⟨cpu, readMemory t root⟩

end PodGauges.Cgroup
