import PodGauges.Exporter

/-!
What is declared to the library that keeps the gauges. The library is a parameter: it may refuse a
family, and then there is no exporter.
-/

namespace PodGauges

open Number

/-- A family of series as it is declared: its name, its description, the names of its labels. -/
structure Family where
  name : String
  help : String
  labels : List String
  deriving DecidableEq, Repr

namespace Catalogue

def family (catalogue : Catalogue) (metric : Metric) : Family where
  name := catalogue.metricName metric
  help := metric.help
  labels := catalogue.labelNames metric

/-- The families, in the order in which they are declared. -/
def families (catalogue : Catalogue) : List Family := catalogue.metrics.map catalogue.family

end Catalogue

/-- A library that takes one more family beside those it has, or refuses it. -/
abbrev Library (ε : Type) := List Family → Family → Except ε Unit

/-- Declares families one after another, up to the first that is refused. -/
def Library.declare {ε : Type} (library : Library ε) (taken : List Family) :
    List Family → Except ε (List Family)
  | [] => .ok taken
  | family :: rest => do
    library taken family
    library.declare (taken ++ [family]) rest

namespace Exporter

/-- Why an exporter does not come about: the library refuses a family, or the interval is no
double. -/
inductive BuildError (ε : Type) where
  | refused (error : ε)
  | interval (error : RangeError)

/-- The exporter of a configuration over a library. The families come first, so that an interval
that is no double shows after all of them are declared. -/
def buildOver {ε : Type} (library : Library ε) (config : Config) (tree : File.Tree) :
    Except (BuildError ε) Exporter := do
  let _ ← (library.declare [] (Catalogue.ofConfig config).families).mapError .refused
  (build config tree).1.mapError .interval

end Exporter

end PodGauges
