import PodGauges.Config
import PodGauges.Metric

/-!
The catalogue of exported metrics under a configuration: which metrics there are, what they are
called, and which labels their series carry.
-/

namespace PodGauges

/-- One series: its metric, and a value for each of the labels that tell series apart. -/
structure Series where
  metric : Metric
  values : List String
  deriving DecidableEq, Repr

/-- What a configuration decides about names and labels. -/
structure Catalogue where
  metricPrefix : Option String
  labels : Keyed String String
  nodeName : Option String
  hasResources : Bool

namespace Catalogue

/-- The catalogue of a configuration: its names, its labels and its declared resources. -/
def ofConfig (config : Config) : Catalogue where
  metricPrefix := config.metricPrefix
  labels := config.labels
  nodeName := config.nodeName
  hasResources := config.declared.isAny

/-- The metrics, in the order of export. -/
def metrics (catalogue : Catalogue) : List Metric :=
  Metric.standard ++ if catalogue.hasResources then Metric.resources else []

/-- The name of a metric behind the common beginning. -/
def metricName (catalogue : Catalogue) (metric : Metric) : String :=
  match catalogue.metricPrefix with
  | some beginning => s!"{beginning}_{metric.name}"
  | none => metric.name

/-- The labels that all series of a metric carry alike; those about the host also name the node. -/
def constantLabels (catalogue : Catalogue) (metric : Metric) : List (String × String) :=
  catalogue.labels ++
    if metric.isHost then catalogue.nodeName.toList.map (Config.nodeLabel, ·) else []

def labelNames (catalogue : Catalogue) (metric : Metric) : List String :=
  (catalogue.constantLabels metric).map (·.1) ++ metric.labels.map Label.name

def labelsOf (catalogue : Catalogue) (series : Series) : List (String × String) :=
  catalogue.constantLabels series.metric ++ (series.metric.labels.map Label.name).zip series.values

/-- Whether the series of a metric carry no label at all; then there is only one. -/
def isBare (catalogue : Catalogue) (metric : Metric) : Bool :=
  (catalogue.labelNames metric).isEmpty

end Catalogue

end PodGauges
