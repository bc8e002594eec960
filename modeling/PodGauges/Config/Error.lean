import PodGauges.Pattern.Fault
import PodGauges.Text.Quoted

/-!
What can be wrong with the settings, and how it is worded.
-/

namespace PodGauges.Config

inductive ListenFault where
  | noHostOrPort
  | bareAddress
  | badPort
  | portOutOfRange
  deriving DecidableEq, Repr

/-- What is wrong with a setting; the text is the offending part of it. -/
inductive Fault where
  | listen (fault : ListenFault) (text : String)
  | pattern (text : String) (fault : Pattern.Fault) (position : Option Nat)
  | pid (setting : String) (text : String)
  | labelName (text : String)
  | labelTaken (text : String)
  | metricName (text : String)
  | interval (text : String)
  | amount (setting : String) (text : String)
  deriving DecidableEq, Repr

/-- The words for a fault; each begins with the setting at fault. -/
def Fault.message : Fault → String
  | .listen .noHostOrPort text => s!"EXPORTER_LISTEN parse error: {Text.quotedString text}"
  | .listen .bareAddress text =>
    s!"EXPORTER_LISTEN parse error: {Text.quotedString text} (bracket IPv6 addresses)"
  | .listen .badPort text => s!"EXPORTER_LISTEN parse error: bad port in {Text.quotedString text}"
  | .listen .portOutOfRange text =>
    s!"EXPORTER_LISTEN parse error: port out of range in {Text.quotedString text}"
  | .pattern text fault position =>
    "TARGET_PID_REGEXP is not a valid regex: " ++
      (Pattern.Error.malformed fault position).message text.toList
  | .pid setting text => s!"{setting} parse error: {Text.quotedString text} is not a PID"
  | .labelName text => s!"METRICS_STATIC_LABELS: invalid label name {Text.quotedString text}"
  | .labelTaken text =>
    s!"METRICS_STATIC_LABELS: label name {Text.quotedString text} is used by exported series"
  | .metricName text =>
    s!"METRICS_PREFIX: {Text.quotedString text} is not a valid metric name prefix"
  | .interval text => s!"METRICS_UPDATE_INTERVAL_SECS parse error: {Text.quotedString text}"
  | .amount setting text => s!"{setting} parse error: {Text.quotedString text}"

/-- Why there is no configuration: a setting is at fault, or it holds a pattern that is well formed
and still cannot be used. -/
inductive Error where
  | invalid (fault : Fault)
  | unusablePattern (error : Pattern.Error)
  deriving DecidableEq, Repr

/-- The wording of an error; that of an unusable pattern does not name the setting. -/
def Error.message : Error → String
  | .invalid fault => fault.message
  | .unusablePattern error => error.message []

end PodGauges.Config
