import PodGauges.Number.Layout
import PodGauges.Gauges

/-!
The text in which all series are exposed: for each metric its description and kind, and a line for
each of its series.
-/

namespace PodGauges.Exposition

open Number

/-- Positive numbers from 10^6 on have a power of ten, which has no zero in front but to fill up two
digits: `1e+06` and `1e+10`. Names have a capital. -/
def numbers : Layout where
  positiveLimit := 6
  negativeLimit := 16
  infinity := "+Inf"
  negativeInfinity := "-Inf"
  notANumber := "NaN"

/-- A character of a label value, between quotes. -/
def escaped (c : Char) : List Char :=
  if c = '\\' then ['\\', '\\']
  else if c = '\n' then ['\\', 'n']
  else if c = '"' then ['\\', '"']
  else [c]

def labelText (label : String × String) : String :=
  label.1 ++ "=\"" ++ String.ofList (label.2.toList.flatMap escaped) ++ "\""

def sorted (labels : List (String × String)) : List (String × String) :=
  labels.mergeSort fun a b => a.1 ≤ b.1

/-- Labels in braces; nothing if there are none. -/
def labelsText (labels : List (String × String)) : String :=
  if labels.isEmpty then ""
  else "\x7b" ++ ",".intercalate ((sorted labels).map labelText) ++ "\x7d"

def sampleLine (catalogue : Catalogue) (series : Series) (x : Float) : String :=
  catalogue.metricName series.metric ++ labelsText (catalogue.labelsOf series) ++ " " ++
    numbers.render x

/-- The series of a metric, in the order of their first write. -/
def seriesOf (gauges : Gauges) (metric : Metric) : List (Series × Float) :=
  gauges.values.filter fun entry => entry.1.metric = metric

def familyLines (gauges : Gauges) (metric : Metric) : List String :=
  (seriesOf gauges metric).map fun (series, x) => sampleLine gauges.catalogue series x

/-- The two lines in front of the series of a metric. -/
def headerLines (catalogue : Catalogue) (metric : Metric) : List String :=
  let name := catalogue.metricName metric
  [s!"# HELP {name} {metric.help}", s!"# TYPE {name} gauge"]

def sampleLines (gauges : Gauges) : List String :=
  gauges.catalogue.metrics.flatMap (familyLines gauges)

def text (gauges : Gauges) : String :=
  String.join <| (gauges.catalogue.metrics.flatMap fun metric =>
    headerLines gauges.catalogue metric ++ familyLines gauges metric).map (· ++ "\n")

/-- The value of the series with a name and with exactly these labels, in any order. -/
def find? (gauges : Gauges) (name : String) (labels : List (String × String)) :
    Option Float :=
  (gauges.catalogue.metrics.flatMap (seriesOf gauges)).findSome? fun (series, x) =>
    if gauges.catalogue.metricName series.metric = name ∧
        sorted (gauges.catalogue.labelsOf series) = sorted labels then some x
    else none

end PodGauges.Exposition
