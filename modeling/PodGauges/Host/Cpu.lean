import PodGauges.Number.Quantity
import PodGauges.Number.Real
import PodGauges.Text.Cutting

/-!
CPU time of the host by mode, from the aggregate line of the kernel's statistics.
-/

namespace PodGauges.Host

open Number

/-- The modes in the order of their columns. -/
inductive CpuMode where
  | user
  | nice
  | system
  | idle
  | iowait
  | irq
  | softirq
  | steal
  | guest
  | guestNice
  deriving DecidableEq, Repr

namespace CpuMode

/-- The modes, in the order of the columns of the aggregate line. -/
def all : List CpuMode :=
  [.user, .nice, .system, .idle, .iowait, .irq, .softirq, .steal, .guest, .guestNice]

def name : CpuMode → String
  | .user => "user"
  | .nice => "nice"
  | .system => "system"
  | .idle => "idle"
  | .iowait => "iowait"
  | .irq => "irq"
  | .softirq => "softirq"
  | .steal => "steal"
  | .guest => "guest"
  | .guestNice => "guest_nice"

/-- The column of a mode, counted from zero. -/
def column : CpuMode → Nat
  | .user => 0
  | .nice => 1
  | .system => 2
  | .idle => 3
  | .iowait => 4
  | .irq => 5
  | .softirq => 6
  | .steal => 7
  | .guest => 8
  | .guestNice => 9

end CpuMode

abbrev CpuSeconds := CpuMode → Float

/-- Why CPU times could not be read from a text. -/
inductive CpuError where
  | noAggregateLine
  | zeroTickRate
  | range (error : RangeError)
  deriving DecidableEq, Repr

/-- The words for an unusable table of processor times. -/
def CpuError.message : CpuError → String
  | .noAggregateLine => "malformed stat: no aggregate 'cpu' line"
  | .zeroTickRate => "float division by zero"
  | .range error => error.message

/-- What the aggregate line begins with; the lines of single processors have a number there. -/
def aggregateMark : List Char := ['c', 'p', 'u', ' ']

/-- The columns of the first aggregate line. -/
def aggregateColumns? (text : List Char) : Option (List (List Char)) :=
  ((Text.lines text).find? aggregateMark.isPrefixOf).map fun line => (Text.words line).tail

/-- The ticks in a column; a missing or unreadable one has none. -/
def ticksIn (columns : List (List Char)) (mode : CpuMode) : Float :=
  (columns[mode.column]?.bind real?).getD 0.0

/-- A rate in ticks per second as a double. -/
def tickRate (rate : Int) : Except CpuError Float :=
  match realOfInteger rate with
  | .error error => .error (.range error)
  | .ok rate => if rate == 0.0 then .error .zeroTickRate else .ok rate

/-- The seconds in each mode, from ticks at a given rate. -/
def cpuSeconds (text : List Char) (rate : Int) : Except CpuError CpuSeconds := do
  let columns ← (aggregateColumns? text).elim (.error .noAggregateLine) .ok
  let rate ← tickRate rate
  return fun mode => ticksIn columns mode / rate

/-- The rate where the system does not tell one. -/
def defaultTickRate : Int := 100

/-- The rate that the system reports, if it reports a positive one. -/
def clockTicks (reported : Option Int) : Int :=
  match reported with
  | some rate => if 0 < rate then rate else defaultTickRate
  | none => defaultTickRate

end PodGauges.Host
