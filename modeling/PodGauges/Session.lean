import PodGauges.Exporter

/-!
A whole session: reading the settings, binding a listener, answering requests after a first cycle,
and ending on a signal.
-/

namespace PodGauges

open Number

inductive Signal where
  | interrupt
  | terminate
  deriving DecidableEq, Repr

namespace Signal

/-- Both signals, in the order of their numbers. -/
def all : List Signal := [.interrupt, .terminate]

/-- The number by which the system knows a signal. -/
def number : Signal → Nat
  | .interrupt => 2
  | .terminate => 15

def name : Signal → String
  | .interrupt => "SIGINT"
  | .terminate => "SIGTERM"

end Signal

inductive AddressFamily where
  | inet
  | inet6
  deriving DecidableEq, Repr

/-- A host with a colon in it is an address of the later family. -/
def AddressFamily.ofHost (host : String) : AddressFamily :=
  if ':' ∈ host.toList then .inet6 else .inet

structure Session where
  dialect : Pattern.Dialect
  settings : Config.Settings
  moment : Cycle.Moment
  bindError : Option File.Errno
  requests : List Http.Request
  signal : Option Signal

inductive Ending where
  /-- The settings were refused. -/
  | refused
  /-- The listener could not be bound. -/
  | unbound (listen : Config.Listen)
  | served (listen : Config.Listen) (responses : List Http.Response)

/-- The code with which a session that came no further ends the program. -/
def Ending.exitCode? : Ending → Option Nat
  | .refused => some 2
  | .unbound _ => some 1
  | .served _ _ => none

/-- How a session went; the records of the cycles are kept apart. -/
structure Report where
  ending : Ending
  level : Log.Level
  log : List Log.Record
  cycleLog : List Log.Record

/-- Why a session broke off without a report. -/
inductive Crash where
  | pattern (error : Pattern.Error)
  | interval (error : RangeError)
  deriving DecidableEq, Repr

/-- The words for an exporter that could not be built. -/
def Crash.message : Crash → String
  | .pattern error => error.message []
  | .interval error => error.message

namespace Session

/-- The record of a refused configuration. -/
def refusal (fault : Config.Fault) : Log.Record :=
  ⟨.error, .app, s!"invalid configuration: {fault.message}"⟩

/-- The record of a listener that could not be bound. -/
def bindFailure (listen : Config.Listen) (error : File.Errno) : Log.Record :=
  Log.failure .app "could not bind listener" error.report none [("listen_addr", listen.text)]

def wholeSeconds : Quantity → Int
  | .int n => n
  | .real x => integerPart x

def greeting (exporter : Exporter) : Log.Record :=
  ⟨.info, .app, s!"starting listen_addr={exporter.config.listen.text} interval_secs=" ++
    decimalText (wholeSeconds exporter.interval)⟩

def farewell (signal : Signal) : Log.Record :=
  ⟨.info, .app, s!"received signal {signal.number}, shutting down"⟩

/-- Requests answered one after another, and what was logged. -/
def respondAll (gauges : Gauges) : List Http.Request → List Http.Response × List Log.Record
  | [] => ([], [])
  | request :: rest =>
    let (response, log) := Http.respond gauges request
    let (responses, logs) := respondAll gauges rest
    (response :: responses, log ++ logs)

/-- A session with a listener: one cycle, the requests, and the signal if there is one. -/
def serve (session : Session) (exporter : Exporter) : Ending × List Log.Record × List Log.Record :=
  let (exporter', outcome) := exporter.cycle session.moment
  let (responses, log) := respondAll exporter'.gauges session.requests
  (.served exporter.config.listen responses,
    greeting exporter :: log ++ session.signal.toList.map farewell, outcome.log)

/-- What becomes of a session. Records from before the level is set are all kept. -/
def run (session : Session) : Except Crash Report :=
  match Config.ofSettings session.dialect session.settings with
  | (.error (.invalid fault), log) =>
    .ok ⟨.refused, Log.Level.ofSetting Log.defaultSetting, log ++ [refusal fault], []⟩
  | (.error (.unusablePattern error), _) => .error (.pattern error)
  | (.ok config, log) =>
    let level := Log.Level.ofSetting config.logLevel
    let kept := Log.atLeast level
    match Exporter.build config session.moment.tree with
    | (.error error, _) => .error (.interval error)
    | (.ok exporter, buildLog) =>
      match session.bindError with
      | some error =>
        .ok ⟨.unbound config.listen, level,
          log ++ kept (buildLog ++ [bindFailure config.listen error]), []⟩
      | none =>
        let (ending, mainLog, cycleLog) := serve session exporter
        .ok ⟨ending, level, log ++ kept (buildLog ++ mainLog), kept cycleLog⟩

end Session

end PodGauges
