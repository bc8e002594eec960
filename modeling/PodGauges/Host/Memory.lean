import PodGauges.Dump

/-!
Memory of the host, in bytes, from the kernel's table of amounts in kibibytes.
-/

namespace PodGauges.Host

inductive MemoryAmount where
  | total
  | free
  | available
  | cached
  | buffers
  | swapTotal
  | swapFree
  deriving DecidableEq, Repr

namespace MemoryAmount

/-- The amounts, in the order in which they are written to gauges. -/
def all : List MemoryAmount :=
  [.total, .free, .available, .cached, .buffers, .swapTotal, .swapFree]

/-- The key under which the kernel writes an amount. -/
def key : MemoryAmount → String
  | .total => "MemTotal"
  | .free => "MemFree"
  | .available => "MemAvailable"
  | .cached => "Cached"
  | .buffers => "Buffers"
  | .swapTotal => "SwapTotal"
  | .swapFree => "SwapFree"

/-- A key may have colons behind it. -/
def ofWord? (word : List Char) : Option MemoryAmount :=
  Dump.keyOf? all key (Text.dropEnd (· == ':') word)

end MemoryAmount

/-- The kernel gives amounts of memory in kibibytes. -/
def bytesPerKibibyte : Int := 1024

/-- The amounts that a text holds; one that is not there is zero. -/
def memoryBytes (text : List Char) (amount : MemoryAmount) : Int :=
  (Dump.last? amount (Dump.readings MemoryAmount.ofWord? text)).getD 0 * bytesPerKibibyte

end PodGauges.Host
