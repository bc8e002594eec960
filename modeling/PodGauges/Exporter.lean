import PodGauges.Http
import PodGauges.Cycle

/-!
An exporter: a configuration, the gauges that its cycles fill, and the seconds between them.
-/

namespace PodGauges

open Number

/-- A configured exporter with what its cycles have written so far. -/
structure Exporter where
  config : Config
  interval : Quantity
  state : Cycle.State

namespace Exporter

/-- The gauges with the metadata of a volume in it, and what was logged. A volume that cannot be
read leaves the gauges as they are. -/
def withDownward (gauges : Gauges) (tree : File.Tree) (volume : File.Path) :
    Gauges × List Log.Record :=
  match Downward.read tree volume with
  | (.ok fields, log) =>
    match gauges.writeAll (Downward.writes fields) with
    | (gauges, none) => (gauges, log)
    | (gauges, some error) =>
      (gauges, log ++ [Log.failure .app "init downward api info failed" error.message none []])
  | (.error error, log) =>
    (gauges, log ++ [Log.failure .app "init downward api info failed" error.message none []])

/-- The exporter of a configuration, and what was logged; the metadata is read this once. An
interval that is no double makes none. -/
def build (config : Config) (tree : File.Tree) : Except RangeError Exporter × List Log.Record :=
  let gauges := Gauges.ofConfig config
  let (gauges, log) := match config.downward with
    | some volume => withDownward gauges tree volume
    | none => (gauges, [])
  let exporter := (realOfInteger (max config.interval Config.minInterval)).map fun seconds =>
    { config, interval := .real seconds, state := Cycle.State.start gauges }
  (exporter, log)

def gauges (exporter : Exporter) : Gauges := exporter.state.gauges

/-- The exporter after one cycle, with the outcome of that. -/
def cycle (exporter : Exporter) (moment : Cycle.Moment) : Exporter × Cycle.Outcome :=
  let outcome := Cycle.run exporter.config moment exporter.state
  ({ exporter with state := outcome.state }, outcome)

/-- The exporter after some writes, and why they failed if they did. -/
def apply (exporter : Exporter) (writes : List Write) : Exporter × Option RangeError :=
  let (gauges, error) := exporter.state.gauges.writeAll writes
  ({ exporter with state.gauges := gauges }, error)

/-- The exporter with another interval, which is at least one second. -/
def withInterval (exporter : Exporter) (seconds : Quantity) : Exporter :=
  { exporter with interval := Cycle.effectiveInterval seconds }

end Exporter

end PodGauges
