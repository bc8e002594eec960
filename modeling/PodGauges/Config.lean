import PodGauges.Config.Listen
import PodGauges.Config.Naming
import PodGauges.Config.Target
import PodGauges.File.Path
import PodGauges.Number.Real

/-!
The configuration, read from named settings. A setting that is missing has a default; one that
cannot be understood means that there is no configuration.
-/

namespace PodGauges

open File Text

/-- What an exporter is told: where to listen, where to read, what to watch and how to name it. -/
structure Config where
  listen : Config.Listen
  cgroupRoot : Path
  procRoot : Path
  networkRoot : Path
  interface : String
  downward : Option Path
  target : Option Target
  metricPrefix : Option String
  labels : Keyed String String
  /-- Seconds between two cycles. -/
  interval : Int
  nodeName : Option String
  declared : Declared
  logLevel : String

namespace Config

/-- Seconds between two cycles when the settings do not say. -/
def defaultInterval : Int := 5

/-- Shorter intervals are lengthened to this one. -/
def minInterval : Int := 1

/-- The seconds between two cycles. -/
def interval? (setting : Option String) : Except Fault Int :=
  match setting with
  | none => .ok defaultInterval
  | some text =>
    let digits := trim text.toList
    if digits = [] then .ok defaultInterval
    else
      match Number.integer? digits with
      | some n => .ok (max n minInterval)
      | none => .error (.interval text)

/-- A declared amount; a blank setting declares none. -/
def amount? (setting : String) (text : Option String) : Except Fault (Option Float) :=
  match text with
  | none => .ok none
  | some text =>
    if trim text.toList = [] then .ok none
    else
      match Number.real? text.toList with
      | some x => .ok (some x)
      | none => .error (.amount setting text)

def declared? (settings : Settings) : Except Fault Declared := do
  let amount (resource : Resource) : Except Fault (Option Float) :=
    amount? resource.setting (settings resource.setting)
  let cpuRequests ← amount .cpuRequests
  let cpuLimits ← amount .cpuLimits
  let memoryRequests ← amount .memoryRequests
  let memoryLimits ← amount .memoryLimits
  return fun
    | .cpuRequests => cpuRequests
    | .cpuLimits => cpuLimits
    | .memoryRequests => memoryRequests
    | .memoryLimits => memoryLimits

/-- The beginning of metric names, from a setting and, if that leaves none, from another one. -/
def prefixOf? (settings : Settings) : Except Fault (Option String) := do
  let read (setting : String) : Except Fault (Option (List Char)) :=
    match settings setting with
    | some text => prefixOfText text.toList
    | none => .ok none
  match ← read "METRICS_PREFIX" with
  | some name => return some (String.ofList name)
  | none => return (← read "METRICS_NAMESPACE").map String.ofList

/-- A setting that counts as missing if it is blank. -/
def unlessBlank (setting : Option String) : Option String :=
  (setting.map trimString).filter (· ≠ "")

/-- The configuration, given where to listen and what to observe. -/
def complete (settings : Settings) (listen : Listen) (target : Option Target) :
    Except Fault Config := do
  let metricPrefix ← prefixOf? settings
  let labels ← staticLabels ((settings "METRICS_STATIC_LABELS").getD "").toList
  let interval ← interval? (settings "METRICS_UPDATE_INTERVAL_SECS")
  let declared ← declared? settings
  let path (setting default : String) : Path := Path.ofString ((settings setting).getD default)
  return {
    listen, target, metricPrefix, labels, interval, declared
    cgroupRoot := path "CGROUP_ROOT" "/sys/fs/cgroup"
    procRoot := path "PROC_ROOT" "/proc"
    networkRoot := path "SYS_CLASS_NET" "/sys/class/net"
    interface := trimString ((settings "NET_INTERFACE").getD "eth0")
    downward := ((settings "DOWNWARD_API_DIR").filter (· ≠ "")).map Path.ofString
    nodeName := unlessBlank (settings "NODE_NAME")
    logLevel := (settings "LOG_LEVEL").getD Log.defaultSetting }

/-- The configuration of the settings, and what is logged on the way. The listen address is read
first, then the target, then all else; the first fault found is the one reported. -/
def ofSettings (dialect : Pattern.Dialect) (settings : Settings) :
    Except Error Config × List Log.Record :=
  match Listen.ofText ((settings "EXPORTER_LISTEN").getD "0.0.0.0:9100").toList with
  | .error fault => (.error (.invalid fault), [])
  | .ok listen =>
    match target? dialect settings with
    | .error error => (.error error, [])
    | .ok target => ((complete settings listen target).mapError .invalid, targetLog target)

end Config

end PodGauges
