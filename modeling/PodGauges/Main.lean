import PodGauges.Disk
import PodGauges.Http.Wire
import PodGauges.Session
import Std.Async.DNS
import Std.Async.Signal
import Std.Async.TCP
import Std.Async.Timer
import Std.Time.DateTime.Timestamp

/-!
The program: it takes its settings from the environment, runs cycles in the background and answers
requests until a signal ends it.
-/

namespace PodGauges.Program

open Std.Async

def settingNames : List String :=
  ["EXPORTER_LISTEN", "CGROUP_ROOT", "PROC_ROOT", "SYS_CLASS_NET", "NET_INTERFACE",
   "DOWNWARD_API_DIR", "TARGET_PID_REGEXP", "TARGET_PIDS", "TARGET_PID", "METRICS_PREFIX",
   "METRICS_NAMESPACE", "METRICS_STATIC_LABELS", "METRICS_UPDATE_INTERVAL_SECS", "NODE_NAME",
   "LOG_LEVEL"] ++ Resource.all.map Resource.setting

def settings : IO Config.Settings := do
  let values ← settingNames.mapM fun name => return (name, ← IO.getEnv name)
  return fun name => (values.lookup name).join

/-- Writes the records that a level lets through. -/
def report (level : Log.Level) (records : List Log.Record) : IO Unit := do
  for r in Log.atLeast level records do
    IO.eprintln s!"{r.level.name} [{r.component.loggerName}] {r.message}"

/-- The bytes of a page of memory on nearly every machine. -/
def pageSize : Nat := 4096

/-- The tree as it is now, with the wall clock and the monotonic clock in seconds. -/
def moment (tree : File.Tree) : IO Cycle.Moment := do
  let now := (← Std.Time.Timestamp.now).toMillisecondsSinceUnixEpoch
  return ⟨tree, pageSize, Float.ofInt now.val / 1000.0, Float.ofNat (← IO.monoMsNow) / 1000.0⟩

/-- The milliseconds between two cycles. -/
def pause (exporter : Exporter) : Std.Time.Millisecond.Offset :=
  .ofInt (min (Session.wholeSeconds exporter.interval) 86400 * 1000)

/-- Runs one cycle after another. -/
partial def runCycles (level : Log.Level) (state : IO.Ref Exporter) : Async Unit := do
  let exporter ← state.get
  let tree ← Disk.load exporter.config
  let (exporter, outcome) := exporter.cycle (← moment tree)
  state.set exporter
  report level outcome.log
  sleep (pause exporter)
  runCycles level state

/-- The longest head of a request. -/
def maxHead : Nat := 65536

partial def receive (client : TCP.Socket.Client) (taken : List Char) : Async (List Char) := do
  if Http.hasHead taken || maxHead < taken.length then return taken
  match ← client.recv? 4096 with
  | some bytes => receive client (taken ++ bytes.toList.map fun b => Char.ofNat b.toNat)
  | none => return taken

def answer (level : Log.Level) (state : IO.Ref Exporter) (client : TCP.Socket.Client) :
    Async Unit := do
  if let some request := Http.Request.ofMessage? (← receive client []) then
    let (response, log) := Http.respond (← state.get).gauges request
    report level log
    client.send response.message.toUTF8
  client.shutdown

/-- Answers requests as they come; one that breaks off is let go. -/
partial def serve (level : Log.Level) (state : IO.Ref Exporter) (server : TCP.Socket.Server) :
    Async Unit := do
  let client ← server.accept
  background (do try answer level state client catch _ => return)
  serve level state server

def addressOf (listen : Config.Listen) : IO Std.Net.SocketAddress := do
  let port := UInt16.ofNat listen.port
  match Std.Net.IPv4Addr.ofString listen.host, Std.Net.IPv6Addr.ofString listen.host with
  | some address, _ => return .v4 ⟨address, port⟩
  | none, some address => return .v6 ⟨address, port⟩
  | none, none =>
    match (← (DNS.getAddrInfo listen.host (toString listen.port)).block).toList with
    | .v4 address :: _ => return .v4 ⟨address, port⟩
    | .v6 address :: _ => return .v6 ⟨address, port⟩
    | [] => throw (IO.userError "unknown host")

/-- A listener at an address, or the error that keeps it from being bound. -/
def bind (listen : Config.Listen) : IO (Except File.Errno TCP.Socket.Server) := do
  try
    let server ← TCP.Socket.Server.mk
    server.bind (← addressOf listen)
    server.listen 128
    return .ok server
  catch error => return .error (Disk.errnoOf error)

/-- Waits for a signal that ends the program. -/
def awaitSignal : IO (Option Signal) := do
  let interrupt ← (← Std.Async.Signal.Waiter.mk .sigint false).wait
  let terminate ← (← Std.Async.Signal.Waiter.mk .sigterm false).wait
  let number ← IO.ofExcept (← IO.waitAny [interrupt, terminate] (by simp))
  return PodGauges.Signal.all.find? fun signal => (signal.number : Int) = number

def run (level : Log.Level) (exporter : Exporter) : IO UInt32 := do
  match ← bind exporter.config.listen with
  | .error error =>
    report level [Session.bindFailure exporter.config.listen error]
    return 1
  | .ok server =>
    let state ← IO.mkRef exporter
    let _ ← (runCycles level state).toIO
    report level [Session.greeting exporter]
    let _ ← (serve level state server).toIO
    report level ((← awaitSignal).toList.map Session.farewell)
    return 0

end PodGauges.Program

open PodGauges in
/-- Refused settings end the program with code 2, a listener that cannot be bound with code 1. -/
def main : IO UInt32 := do
  let (config, log) := Config.ofSettings .ascii (← Program.settings)
  Program.report .warning log
  match config with
  | .error (.invalid fault) =>
    Program.report (Log.Level.ofSetting Log.defaultSetting) [Session.refusal fault]
    return 2
  | .error error => throw (IO.userError error.message)
  | .ok config =>
    let level := Log.Level.ofSetting config.logLevel
    let tree ← config.downward.elim (return File.Tree.empty)
      (Disk.addVolume File.Tree.empty)
    match Exporter.build config tree with
    | (.error error, _) => throw (IO.userError error.message)
    | (.ok exporter, buildLog) =>
      Program.report level buildLog
      Program.run level exporter
