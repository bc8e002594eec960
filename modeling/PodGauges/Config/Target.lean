import PodGauges.Config.Error
import PodGauges.Log
import PodGauges.Number.Integer
import PodGauges.Target
import PodGauges.Text.Cutting

/-!
The settings that choose the observed processes. Of a pattern, a list and a single number, the
first that is set counts.
-/

namespace PodGauges.Config

open Processes Text

abbrev Settings := String → Option String

def patternSetting : String := "TARGET_PID_REGEXP"

def listSetting : String := "TARGET_PIDS"

def singleSetting : String := "TARGET_PID"

/-- A process number, which is positive. -/
def pid (setting : String) (token : List Char) : Except Fault Pid :=
  match Number.integer? token with
  | some n => if 0 < n then .ok n else .error (.pid setting (String.ofList token))
  | none => .error (.pid setting (String.ofList token))

/-- The tokens between commas that are not blank, without white space around them. -/
def tokens (text : List Char) : List (List Char) :=
  ((splitAll ',' text).map trim).filter (· ≠ [])

def pidList (text : List Char) : Except Fault (List Pid) := (tokens text).mapM (pid listSetting)

def patternTarget (dialect : Pattern.Dialect) (text : String) : Except Error Target :=
  match Pattern.ofString dialect text with
  | .ok pattern => .ok (.matching pattern)
  | .error (.malformed fault position) => .error (.invalid (.pattern text fault position))
  | .error error => .error (.unusablePattern error)

/-- The target of the settings behind the pattern. -/
def pidTarget? (settings : Settings) : Except Fault (Option Target) :=
  match settings listSetting with
  | some text => (pidList text.toList).map fun pids => some (.listed pids)
  | none =>
    match settings singleSetting with
    | none => .ok none
    | some text =>
      let token := trim text.toList
      if token = [] then .ok none
      else (pid singleSetting token).map fun pid => some (.single pid)

/-- The target of the settings, if they choose one; an empty pattern is none. -/
def target? (dialect : Pattern.Dialect) (settings : Settings) : Except Error (Option Target) :=
  match settings patternSetting with
  | none | some "" => (pidTarget? settings).mapError .invalid
  | some text => (patternTarget dialect text).map some

/-- What is logged about a target: a list may be empty, but hardly on purpose. -/
def targetLog : Option Target → List Log.Record
  | some (.listed []) =>
    [⟨.warning, .config, s!"{listSetting} is empty; process metrics will report zero"⟩]
  | _ => []

end PodGauges.Config
