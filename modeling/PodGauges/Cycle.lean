import PodGauges.Cycle.Category

/-!
One cycle updates every category in turn. A failure ends only the update of its own category and
is logged.
-/

namespace PodGauges.Cycle

open Number

/-- The categories that are updated, in order; processes are if there is a target. -/
def categories (config : Config) : List Category :=
  [.cgroup] ++ (if config.target.isSome then [.process] else []) ++ [.host, .tcp, .net]

/-- The record of a failed category; that of the network also names the interface. -/
def failureLog (config : Config) (category : Category) (failure : Failure) : List Log.Record :=
  if failure.isExpected then []
  else
    let fields := match category with
      | .net => [("iface", config.interface)]
      | _ => []
    [Log.failure .cycle s!"updating {category.name} metrics failed" failure.message
      failure.cause? fields]

/-- The outcome of some categories: the state after them, which of them succeeded, and what was
logged. -/
structure Outcome where
  state : State
  succeeded : List (Category × Bool)
  log : List Log.Record

/-- Some categories updated one after another. -/
def updateAll (config : Config) (moment : Moment) (state : State) : List Category → Outcome
  | [] => ⟨state, [], []⟩
  | category :: rest =>
    let update := update config moment state category
    let failed := (update.failure.map (failureLog config category)).getD []
    let outcome := updateAll config moment update.state rest
    ⟨outcome.state, (category, update.failure.isNone) :: outcome.succeeded,
      update.log ++ failed ++ outcome.log⟩

def run (config : Config) (moment : Moment) (state : State) : Outcome :=
  let outcome := updateAll config moment state (categories config)
  { outcome with state.cycles := outcome.state.cycles + 1 }

/-- The state before the first cycle. -/
def State.start (gauges : Gauges) : State :=
  ⟨gauges, Throttle.start Target.summaryCooldown, none, 0⟩

/-- The seconds between two cycles when a number of them is asked for: at least one. An integer
stays one. -/
def effectiveInterval : Quantity → Quantity
  | .int n => if 1 < n then .int n else .real 1.0
  | .real x => if 1.0 < x then .real x else .real 1.0

/-- The thread that runs the cycles: which one it is, and whether it runs. -/
structure Worker where
  generation : Nat
  isRunning : Bool
  deriving DecidableEq, Repr

namespace Worker

/-- A worker that was never started. -/
def idle : Worker := ⟨0, false⟩

/-- The name of the thread. -/
def name : String := "Scheduler"

/-- The thread does not keep the program alive. -/
def isDaemon : Bool := true

/-- A thread that runs is not started again. -/
def start (worker : Worker) : Worker :=
  if worker.isRunning then worker else ⟨worker.generation + 1, true⟩

/-- Stopping keeps the generation, so that a later start is seen as a new thread. -/
def stop (worker : Worker) : Worker := { worker with isRunning := false }

end Worker

end PodGauges.Cycle
