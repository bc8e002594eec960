import PodGauges.Text.Blank

/-!
Log records and their levels, and the one wording in which failures are logged.
-/

namespace PodGauges

inductive Component where
  | app
  | config
  | downward
  | host
  | cycle
  | target
  deriving DecidableEq, Repr

def Component.loggerName : Component → String
  | .app => "pod_exporter.app"
  | .config => "pod_exporter.config"
  | .downward => "pod_exporter.downward"
  | .host => "pod_exporter.host"
  | .cycle => "pod_exporter.scheduler"
  | .target => "pod_exporter.targets"

namespace Log

/-- How grave a record is, from least to most. -/
inductive Level where
  | notSet
  | debug
  | info
  | warning
  | error
  | critical
  deriving DecidableEq, Repr

namespace Level

def rank : Level → Nat
  | .notSet => 0
  | .debug => 10
  | .info => 20
  | .warning => 30
  | .error => 40
  | .critical => 50

/-- The name written in a record. -/
def name : Level → String
  | .notSet => "NOTSET"
  | .debug => "DEBUG"
  | .info => "INFO"
  | .warning => "WARNING"
  | .error => "ERROR"
  | .critical => "CRITICAL"

/-- The level of a name in capitals; two levels have a second name. -/
def ofName? : String → Option Level
  | "CRITICAL" | "FATAL" => some .critical
  | "ERROR" => some .error
  | "WARNING" | "WARN" => some .warning
  | "INFO" => some .info
  | "DEBUG" => some .debug
  | "NOTSET" => some .notSet
  | _ => none

/-- A capital of the ASCII block for the letters that have one there; the dotless i and the long s
are the two such letters outside the block. -/
def capital (c : Char) : Char :=
  if c == 'ı' then 'I' else if c == 'ſ' then 'S' else c.toUpper

/-- The level that a setting asks for; one that names no level asks for information. -/
def ofSetting (setting : String) : Level :=
  (ofName? (String.ofList ((Text.trim setting.toList).map capital))).getD .info

end Level

def defaultSetting : String := "INFO"

structure Record where
  level : Level
  component : Component
  message : String
  deriving DecidableEq, Repr

def atLeast (level : Level) (records : List Record) : List Record :=
  records.filter fun r => level.rank ≤ r.level.rank

/-- How a failure is worded: what failed, the error, what caused it, and where. -/
def failureMessage (what error : String) (cause : Option String)
    (fields : List (String × String)) : String :=
  " ".intercalate <|
    [what, "error=" ++ error] ++ cause.toList.map ("caused_by=" ++ ·) ++
      fields.map fun (key, value) => key ++ "=" ++ value

def failure (component : Component) (what error : String) (cause : Option String)
    (fields : List (String × String)) : Record :=
  ⟨.error, component, failureMessage what error cause fields⟩

end Log

end PodGauges
