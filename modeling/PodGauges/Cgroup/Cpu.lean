import PodGauges.Dump
import PodGauges.Keyed
import PodGauges.Limit

/-!
CPU accounting of a control group: the counters of `cpu.stat` and the bandwidth limit of `cpu.max`.
-/

namespace PodGauges.Cgroup

open Number

/-- The counters of `cpu.stat` that are exported. -/
inductive CpuStat where
  | usage
  | user
  | system
  | throttled
  | periods
  | throttledPeriods
  deriving DecidableEq, Repr

namespace CpuStat

/-- The counters, in the order in which they are written to gauges. -/
def all : List CpuStat := [.usage, .user, .system, .throttled, .periods, .throttledPeriods]

/-- The key under which the kernel writes a counter. -/
def key : CpuStat → String
  | .usage => "usage_usec"
  | .user => "user_usec"
  | .system => "system_usec"
  | .throttled => "throttled_usec"
  | .periods => "nr_periods"
  | .throttledPeriods => "nr_throttled"

/-- Times are given in microseconds, the others are plain counts. -/
def isTime : CpuStat → Bool
  | .usage | .user | .system | .throttled => true
  | .periods | .throttledPeriods => false

/-- The kernel accounts for time in microseconds. -/
def microsecondsPerSecond : Nat := 1000000

/-- A counter in seconds, or as it is. -/
def value (stat : CpuStat) (n : Int) : Except RangeError Quantity :=
  if stat.isTime then (realOfQuotient n microsecondsPerSecond).map .real else .ok (.int n)

/-- The counters that a text holds, in order of first mention. -/
def ofText (text : List Char) : Except RangeError (Keyed CpuStat Quantity) := do
  let values ← (Dump.readings (Dump.keyOf? all key) text).mapM fun (stat, n) =>
    (stat.value n).map (stat, ·)
  return Keyed.ofPairs values

end CpuStat

/-- The bandwidth limit in cores: a quota over a period, or none. -/
def bandwidth? (text : List Char) : Except RangeError (Option Limit) :=
  match Text.words text with
  | [] => .ok none
  | quota :: rest =>
    if quota = Limit.unlimitedWord then .ok (some .unlimited)
    else
      match integer? quota, rest.head?.bind integer? with
      | some q, some p =>
        if 0 < p then (realOfQuotient q p.toNat).map fun cores => some (.finite (.real cores))
        else .ok none
      | _, _ => .ok none

/-- What was seen of the CPU accounting. -/
structure Cpu where
  stat : CpuStat → Option Quantity
  limit : Option Limit

end PodGauges.Cgroup
