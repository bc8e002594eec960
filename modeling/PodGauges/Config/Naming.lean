import PodGauges.Config.Error
import PodGauges.Keyed
import PodGauges.Metric
import PodGauges.Text.Cutting

/-!
Settings that change how series are named: a common beginning of all metric names, and labels that
every series carries.
-/

namespace PodGauges.Config

open Text

/-- A name of ASCII letters, digits and underscores that does not begin with a digit; some more
characters may be allowed throughout. -/
def isName (more : List Char) (name : List Char) : Bool :=
  match name with
  | [] => false
  | c :: rest =>
    let isFirst (c : Char) : Bool := c.isAlpha || c == '_' || more.contains c
    isFirst c && rest.all fun c => isFirst c || isAsciiDigit c

/-- Label names are names in which no other characters stand. -/
def isLabelName (name : List Char) : Bool := isName [] name

/-- Metric names may also hold colons. -/
def isMetricName (name : List Char) : Bool := isName [':'] name

/-- The beginning of all metric names, without underscores at its end; none if nothing is left. -/
def prefixOfText (text : List Char) : Except Fault (Option (List Char)) :=
  let name := dropEnd (· == '_') (trim text)
  if name = [] then .ok none
  else if isMetricName name then .ok (some name)
  else .error (.metricName (String.ofList text))

/-- The label under which the name of the node is exported. -/
def nodeLabel : String := "node_name"

/-- The label names that series use for themselves. -/
def seriesLabels : List String := Label.all.map Label.name ++ [nodeLabel]

/-- A label name that may be set; names with two underscores in front are kept free. -/
def labelName (name : List Char) : Except Fault String :=
  let text := String.ofList name
  if !isLabelName name || ['_', '_'].isPrefixOf name then .error (.labelName text)
  else if text ∈ seriesLabels then .error (.labelTaken text)
  else .ok text

/-- What one pair says; one without an equals sign or without a name says nothing. -/
def label? (pair : List Char) : Except Fault (Option (String × String)) :=
  match splitFirst? '=' (trim pair) with
  | none => .ok none
  | some (name, value) =>
    let name := trim name
    if name = [] then .ok none
    else (labelName name).map fun name => some (name, String.ofList (trim value))

/-- The labels of a text, pairs between commas; of several values for a name the last counts. -/
def staticLabels (text : List Char) : Except Fault (Keyed String String) := do
  let labels ← (splitAll ',' text).mapM label?
  return Keyed.ofPairs (labels.filterMap id)

end PodGauges.Config
