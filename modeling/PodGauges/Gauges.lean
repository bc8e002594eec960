import PodGauges.Catalogue
import PodGauges.Limit

/-!
The gauges: the value of every series written so far. A series without labels is there from the
beginning and is zero then; one with labels comes with its first write.
-/

namespace PodGauges

open Number

/-- What is written to a series: a number, or a limit. -/
inductive Value where
  | quantity (q : Quantity)
  | limit (bound : Limit)

namespace Value

/-- The value as it is exported. -/
def toReal : Value → Except RangeError Float
  | .quantity q => q.toReal
  | .limit bound => bound.toReal

/-- Whether a write of the value brings its series about even if the value is out of range. -/
def marksFirst : Value → Bool
  | .quantity _ => true
  | .limit _ => false

end Value

/-- A value for a series. -/
structure Write where
  series : Series
  value : Value

/-- The values of series, in the order of their first write. -/
structure Gauges where
  catalogue : Catalogue
  values : Keyed Series Float

namespace Gauges

def value? (gauges : Gauges) (series : Series) : Option Float := gauges.values.get? series

/-- The gauges with a value for a series. -/
def put (gauges : Gauges) (series : Series) (x : Float) : Gauges :=
  { gauges with values := gauges.values.put series x }

/-- The gauges with a series in it; one that was not there is zero. -/
def mark (gauges : Gauges) (series : Series) : Gauges :=
  match gauges.value? series with
  | some _ => gauges
  | none => gauges.put series 0.0

/-- The gauges after a write, and why the write failed if it did. -/
def write (gauges : Gauges) (w : Write) : Gauges × Option RangeError :=
  match w.value.toReal with
  | .ok x => (gauges.put w.series x, none)
  | .error error => (if w.value.marksFirst then gauges.mark w.series else gauges, some error)

/-- The gauges after some writes, up to the first that fails. -/
def writeAll (gauges : Gauges) : List Write → Gauges × Option RangeError
  | [] => (gauges, none)
  | w :: rest =>
    match gauges.write w with
    | (gauges, none) => gauges.writeAll rest
    | (gauges, some error) => (gauges, some error)

/-- The gauges of a catalogue before anything is written. -/
def ofCatalogue (catalogue : Catalogue) : Gauges where
  catalogue := catalogue
  values := (catalogue.metrics.filter catalogue.isBare).map fun metric => (⟨metric, []⟩, 0.0)

/-- The gauges of a configuration; the declared amounts are in it once and for all. -/
def ofConfig (config : Config) : Gauges :=
  Resource.all.foldl
    (fun gauges resource =>
      match config.declared resource with
      | some x => gauges.put ⟨.resource resource, []⟩ x
      | none => gauges)
    (ofCatalogue (Catalogue.ofConfig config))

end Gauges

end PodGauges
