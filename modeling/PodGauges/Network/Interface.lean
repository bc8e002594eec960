import PodGauges.File.Text
import PodGauges.Number.Integer

/-!
Traffic counters of one network interface, each in a file of its own below the interface's
`statistics` directory. A counter that cannot be read stays unseen.
-/

namespace PodGauges.Network

open File Number

/-- What is counted. -/
inductive Traffic where
  | bytes
  | packets
  | errors
  | dropped
  deriving DecidableEq, Repr

/-- A counter: what is counted, received or transmitted. -/
structure Counter where
  transmitted : Bool
  traffic : Traffic
  deriving DecidableEq, Repr

namespace Counter

/-- Pairs of received and transmitted, in the order of export. -/
def all : List Counter :=
  [Traffic.bytes, .packets, .errors, .dropped].flatMap fun q => [⟨false, q⟩, ⟨true, q⟩]

/-- What is counted, in a file name. -/
def trafficName : Traffic → String
  | .bytes => "bytes"
  | .packets => "packets"
  | .errors => "errors"
  | .dropped => "dropped"

/-- The counter's file. -/
def fileName (c : Counter) : String :=
  (if c.transmitted then "tx_" else "rx_") ++ trafficName c.traffic

end Counter

/-- What was seen of an interface. -/
structure Snapshot where
  interface : String
  counter : Counter → Option Int

/-- The number in a counter's file, which has to be UTF-8 and an integer literal. -/
def counter? (t : Tree) (statistics : Path) (c : Counter) : Option Int :=
  match t.readText (statistics.child c.fileName) with
  | .ok text => integer? (Text.trim text)
  | .error _ => none

/-- The counters of an interface; none if the name is empty or no such interface is there. -/
def read (t : Tree) (root : Path) (interface : String) : Except IoError (Option Snapshot) :=
  if interface = "" then .ok none
  else
    let statistics := (root.join (Path.ofString interface)).child "statistics"
    match t.isDirectory statistics with
    | .error error => .error ⟨error, statistics.toString⟩
    | .ok false => .ok none
    | .ok true => .ok (some ⟨interface, counter? t statistics⟩)

end PodGauges.Network
