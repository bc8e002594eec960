import PodGauges.File.Text
import PodGauges.Log
import PodGauges.Number.Integer
import PodGauges.Pattern.Match
import PodGauges.Processes.Stat
import PodGauges.Text.DecimalDigit
import PodGauges.Throttle

/-!
Which processes are observed, and from a target to the processes that it names now. A pattern is
looked for in every process of the host; how many it was found in is logged, but not every time.
-/

namespace PodGauges

/-- One process, some processes, or all whose command line or name matches a pattern. -/
inductive Target where
  | single (pid : Processes.Pid)
  | listed (pids : List Processes.Pid)
  | matching (pattern : Pattern)

namespace Target

open File Processes

/-- The process whose directory has a given name, which is a number in ASCII digits. -/
def pidOfName? (name : String) : Option Pid :=
  let digits := name.toList
  if digits ≠ [] ∧ digits.all Text.isAsciiDigit then Number.integer? digits else none

/-- The text of a file of a process: nothing if the process is gone, and empty if the file cannot
be read for another reason. -/
def textOf? (t : Tree) (path : Path) : Option (List Char) :=
  match t.readLossy path with
  | .ok text => some text
  | .error error =>
    if error.error = .noSuchFile ∨ error.error = .noSuchProcess then none else some []

/-- The arguments of a command line end in null characters; they are read as parted by blanks. -/
def spaced (commandLine : List Char) : List Char :=
  commandLine.map fun c => if c = '\x00' then ' ' else c

/-- Whether the process in a directory is looked for, by its command line or else by its name. -/
def isSought (search : List Char → Bool) (t : Tree) (directory : Path) : Bool :=
  match textOf? t (directory.child "cmdline") with
  | none => false
  | some commandLine =>
    search (spaced commandLine) ||
      match textOf? t (directory.child "comm") with
      | none => false
      | some name => search (Text.trim name)

/-- The processes looked for, in the order of their directories. -/
def sought (search : List Char → Bool) (t : Tree) (root : Path) : Except IoError (List Pid) :=
  match t.list root with
  | .error error => .error ⟨error, root.toString⟩
  | .ok names => .ok <| names.filterMap fun name =>
      (pidOfName? name).filter fun _ => isSought search t (root.child name)

/-- How long after one summary the next is written, in seconds. -/
def summaryCooldown : Float := 300.0

def summary (pattern : Pattern) (matched : Nat) : Log.Record :=
  ⟨.info, .target,
    s!"TARGET_PID_REGEXP matched processes regex={pattern.text} matched={matched}"⟩

/-- The processes of a target, the throttle after the search for them, and what was logged. -/
structure Found (τ : Type) where
  pids : List Pid
  throttle : Throttle τ
  log : List Log.Record

variable {τ : Type} [Sub τ] [LT τ] [DecidableRel (α := τ) (· < ·)]

/-- The processes that a target names; only a search for a pattern asks the throttle, once it is
complete. -/
def find (target : Target) (t : Tree) (root : Path) (throttle : Throttle τ) (clock : τ) :
    Except IoError (Found τ) :=
  match target with
  | .single pid => .ok ⟨[pid], throttle, []⟩
  | .listed pids => .ok ⟨pids, throttle, []⟩
  | .matching pattern => do
    let pids ← sought pattern.search t root
    let (passed, throttle) := throttle.ask clock
    return ⟨pids, throttle, if passed then [summary pattern pids.length] else []⟩

end Target

end PodGauges
