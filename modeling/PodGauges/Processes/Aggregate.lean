import PodGauges.Processes.Sample

/-!
The samples of a set of processes folded into one. Counters and processor times are added up; the
start is that of the process that has run longest, among those whose start is known.
-/

namespace PodGauges.Processes

/-- What is known of a set of processes together. Without a known start, start and uptime are
zero. -/
structure Aggregate where
  members : Nat
  cpuUser : Float
  cpuSystem : Float
  start : Float
  uptime : Float
  hasStart : Bool
  count : Counter → Int

/-- The first of the least numbers; one that cannot be compared is never less. -/
def least? : List Float → Option Float
  | [] => none
  | x :: xs => some (xs.foldl (fun least y => if y < least then y else least) x)

def total (xs : List Float) : Float := xs.foldl (· + ·) 0.0

namespace Aggregate

/-- The samples of a set of processes, as seen at a time. -/
def ofSamples (samples : List Sample) (now : Float) : Aggregate :=
  let oldest := least? (samples.filterMap (·.start))
  { members := samples.length
    cpuUser := total (samples.map (·.cpuUser))
    cpuSystem := total (samples.map (·.cpuSystem))
    start := oldest.getD 0.0
    uptime := (oldest.map (now - ·)).getD 0.0
    hasStart := oldest.isSome
    count := fun counter => (samples.map (·.count counter)).foldl (· + ·) 0 }

end Aggregate

end PodGauges.Processes
