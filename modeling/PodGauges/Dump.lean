import PodGauges.Number.Integer
import PodGauges.Text.Blank
import PodGauges.Text.Cutting

/-!
Dumps of counters, the common shape of many kernel files: on each line a key and an integer. A
line with fewer than two words, with an unknown key or with something else for the integer says
nothing, and of several lines for one key the last counts.
-/

namespace PodGauges.Dump

open Number

variable {κ : Type}

def reading? (key? : List Char → Option κ) (line : List Char) : Option (κ × Int) :=
  match Text.words line with
  | key :: value :: _ => (key? key).bind fun k => (integer? value).map (k, ·)
  | _ => none

/-- What the lines of a text say, in order. -/
def readings (key? : List Char → Option κ) (text : List Char) : List (κ × Int) :=
  (Text.lines text).filterMap (reading? key?)

/-- The last value given for a key. -/
def last? [DecidableEq κ] (k : κ) (readings : List (κ × Int)) : Option Int :=
  (readings.filter fun reading => reading.1 = k).getLast?.map (·.2)

/-- The key with a given spelling, out of an enumeration. -/
def keyOf? (all : List κ) (spelling : κ → String) (word : List Char) : Option κ :=
  all.find? fun k => (spelling k).toList = word

end PodGauges.Dump
