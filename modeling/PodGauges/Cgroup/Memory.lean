import PodGauges.Dump
import PodGauges.Keyed
import PodGauges.Limit

/-!
Memory accounting of a control group: five amounts, each in a file of its own, and the event
counters of `memory.events`.
-/

namespace PodGauges.Cgroup

/-- The amounts that the memory controller keeps. -/
inductive MemoryAmount where
  | current
  | peak
  | max
  | high
  | low
  deriving DecidableEq, Repr

namespace MemoryAmount

/-- The amounts, in the order in which they are written to gauges. -/
def all : List MemoryAmount := [.current, .peak, .max, .high, .low]

/-- The last part of the file's name. -/
def name : MemoryAmount → String
  | .current => "current"
  | .peak => "peak"
  | .max => "max"
  | .high => "high"
  | .low => "low"

end MemoryAmount

/-- Event counters, in order of first mention. -/
def memoryEvents (text : List Char) : Keyed String Int :=
  Keyed.ofPairs (Dump.readings (fun word => some (String.ofList word)) text)

/-- What was seen of the memory accounting. -/
structure Memory where
  amount : MemoryAmount → Option Limit
  events : Keyed String Int

end PodGauges.Cgroup
