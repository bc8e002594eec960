import PodGauges.Cycle.Failure
import PodGauges.Gauges.Writes
import PodGauges.Target

/-!
Updating one category of metrics: sampling its source at a moment, and writing what was seen. A
category touches nothing but its own series, and the processes also what is kept of them.
-/

namespace PodGauges.Cycle

open Number

/-- What the categories are updated from: the files as they are, the bytes of a page of memory, the
time of day, and a clock that only tells durations. -/
structure Moment where
  tree : File.Tree
  pageSize : Nat
  now : Float
  clock : Float

structure State where
  gauges : Gauges
  throttle : Throttle Float
  lastSample : Option Processes.Aggregate
  cycles : Nat

/-- The state after an update, why it failed if it did, and what was logged meanwhile. -/
structure Update where
  state : State
  failure : Option Failure
  log : List Log.Record

def State.written (state : State) (writes : List Write) (log : List Log.Record) : Update :=
  match state.gauges.writeAll writes with
  | (gauges, none) => ⟨{ state with gauges := gauges }, none, log⟩
  | (gauges, some error) => ⟨{ state with gauges := gauges }, some (.range error), log⟩

/-- A source of metrics that is sampled on its own. -/
inductive Category where
  | cgroup
  | process
  | host
  | tcp
  | net
  deriving DecidableEq, Repr

namespace Category

/-- The name under which the outcome of a category is reported. -/
def name : Category → String
  | .cgroup => "cgroup"
  | .process => "process"
  | .host => "host"
  | .tcp => "tcp"
  | .net => "net"

end Category

variable (config : Config) (moment : Moment) (state : State)

/-- Reads the control group and writes its snapshot. -/
def updateCgroup : Update :=
  match Cgroup.read moment.tree config.cgroupRoot with
  | .ok snapshot => state.written snapshot.writes []
  | .error error => ⟨state, some (.cgroup error), []⟩

/-- The sample of the processes is kept only if all of it could be written. -/
def updateProcesses (target : Target) : Update :=
  match target.find moment.tree config.procRoot state.throttle moment.clock with
  | .error error => ⟨state, some (.processes error), []⟩
  | .ok found =>
    let state := { state with throttle := found.throttle }
    match Processes.samples moment.pageSize moment.tree config.procRoot found.pids with
    | .error error => ⟨state, some (.statusLine error), found.log⟩
    | .ok samples =>
      let sample := Processes.Aggregate.ofSamples samples moment.now
      match state.written sample.writes found.log with
      | ⟨state, none, log⟩ => ⟨{ state with lastSample := some sample }, none, log⟩
      | failed => failed

/-- Reads the host and writes its snapshot; cycles use the default tick rate. -/
def updateHost : Update :=
  match Host.read moment.tree config.procRoot Host.defaultTickRate with
  | .ok (snapshot, log) => state.written snapshot.writes log
  | .error error => ⟨state, some (.host error), []⟩

def updateSockets : Update :=
  match Network.readSockets moment.tree config.procRoot with
  | .ok counts => state.written (Network.connectionWrites counts.table) []
  | .error error => ⟨state, some (.sockets error), []⟩

/-- An interface that is not there leaves its series as they are, and is no failure. -/
def updateInterface : Update :=
  match Network.read moment.tree config.networkRoot config.interface with
  | .ok (some snapshot) => state.written snapshot.writes []
  | .ok none => ⟨state, none, []⟩
  | .error error => ⟨state, some (.interface error), []⟩

/-- The update of a category; without a target there are no processes to update. -/
def update : Category → Update
  | .cgroup => updateCgroup config moment state
  | .process =>
    match config.target with
    | some target => updateProcesses config moment state target
    | none => ⟨state, none, []⟩
  | .host => updateHost config moment state
  | .tcp => updateSockets config moment state
  | .net => updateInterface config moment state

end PodGauges.Cycle
