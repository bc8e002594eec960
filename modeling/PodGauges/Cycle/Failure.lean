import PodGauges.Cgroup.Snapshot
import PodGauges.Host.Cpu
import PodGauges.Processes.Sample

/-!
Why a category of metrics was not updated, and how that is worded.
-/

namespace PodGauges.Cycle

open File Number

/-- Why a category was not updated in a cycle. -/
inductive Failure where
  | cgroup (error : Cgroup.SnapshotError)
  /-- The processes of the host could not be listed. -/
  | processes (error : IoError)
  /-- The status line of a process could not be opened. -/
  | statusLine (error : IoError)
  | host (error : Host.CpuError)
  | sockets (error : ReadError)
  | interface (error : IoError)
  /-- A value to be exported is out of range. -/
  | range (error : RangeError)
  deriving DecidableEq, Repr

namespace Failure

/-- The words for a failure, as they are logged. -/
def message : Failure → String
  | .cgroup error => error.message
  | .processes error | .statusLine error | .interface error => error.message
  | .host error => error.message
  | .sockets error => error.message
  | .range error => error.message

/-- What is logged as the cause beside the failure itself. -/
def cause? : Failure → Option String
  | .statusLine _ => some Processes.unopenedCause
  | _ => none

/-- A control group that is not there is no failure worth a record. -/
def isExpected : Failure → Bool
  | .cgroup (.missing _) => true
  | _ => false

end Failure

end PodGauges.Cycle
