import PodGauges.File.Path
import PodGauges.Number.Integer
import PodGauges.Number.Real
import PodGauges.Text.Utf8

/-!
Process numbers with the directories of processes, and the files in which the kernel tells of them:
the one-line status of a process, its page counts, and the boot time of the host. All three are read
as bytes. The process name in the status line may hold anything, also blanks and brackets; its
fields are those behind the last closing bracket.
-/

namespace PodGauges.Processes

open Number Text

/-- A process number. Settings and listings give positive ones. -/
abbrev Pid := Int

/-- Numbers from here on belong to no process. -/
def pidLimit : Pid := 0x80000000

def directory (root : File.Path) (pid : Pid) : File.Path := root.child (decimalText pid)

/-- The closing bracket behind the process name. -/
def closingBracket : UInt8 := 41

/-- What follows the last closing bracket, or the whole if there is none. -/
def afterName (bytes : List UInt8) : List UInt8 :=
  (bytes.reverse.takeWhile (· != closingBracket)).reverse

/-- The part of a status line that holds the fields: all but one byte of what follows the name. -/
def fieldBytes (bytes : List UInt8) : List UInt8 := (afterName bytes).drop 1

def byteWords (bytes : List UInt8) : List (List Char) := runs isAsciiBlank (Utf8.asciiText bytes)

def ticksPerSecond : Float := 100.0

/-- The fields of a status line that are used. Times are in ticks; those of the processor are
there only if all fields that go with them are numbers. -/
structure Stat where
  start : Float
  cpu : Option (Float × Float)

/-- The last field that every kernel writes. -/
def requiredFields : Nat := 37

/-- The fields of a status line, unless one is missing or the start is no number. -/
def Stat.ofBytes? (bytes : List UInt8) : Option Stat :=
  let fields := byteWords (fieldBytes bytes)
  let ticks? (i : Nat) : Option Float := fields[i]?.bind real?
  let delays? : Option Float := match fields[39]? with
    | some field => real? field
    | none => some 0.0
  if fields.length < requiredFields then none
  else (ticks? 19).map fun start =>
    { start
      cpu := do
        let user ← ticks? 11
        let system ← ticks? 12
        let _ ← ticks? 13
        let _ ← ticks? 14
        let _ ← delays?
        return (user, system) }

/-- Whether a status line shows a process that has ended and was not waited for. -/
def isZombieLine (bytes : List UInt8) : Bool := (fieldBytes bytes).head? == some 90

/-- Virtual and resident pages: the first two of exactly seven numbers on the first line. -/
def pageCounts? (bytes : List UInt8) : Option (Int × Int) :=
  match (byteWords (bytes.takeWhile (· != 10))).take 7 |>.mapM integer? with
  | some [virtual, resident, _, _, _, _, _] => some (virtual, resident)
  | _ => none

/-- The lines of bytes; only a line feed ends one. -/
def byteLines : List UInt8 → List (List UInt8)
  | [] => []
  | b :: s =>
    if b = 10 then [] :: byteLines s
    else match byteLines s with
      | [] => [[b]]
      | l :: ls => (b :: l) :: ls

def bootMark : List UInt8 := [98, 116, 105, 109, 101]

/-- The boot time in seconds: the second word of the first line with the mark. -/
def bootTime? (bytes : List UInt8) : Option Float :=
  ((byteLines bytes).find? bootMark.isPrefixOf).bind fun line =>
    (byteWords line)[1]?.bind real?

end PodGauges.Processes
