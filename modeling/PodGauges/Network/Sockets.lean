import PodGauges.File.Text
import PodGauges.Number.Integer

/-!
Connections by state and address family, counted from the kernel's two socket tables. A socket of
the second table with an address that maps one of the first family counts as of the first.
-/

namespace PodGauges.Network

open File Number

/-- The connection states, in the order of their codes. -/
inductive TcpState where
  | established
  | synSent
  | synRecv
  | finWait1
  | finWait2
  | timeWait
  | close
  | closeWait
  | lastAck
  | listen
  | closing
  | newSynRecv
  deriving DecidableEq, Repr

namespace TcpState

/-- All states; the first has code one. -/
def all : List TcpState :=
  [.established, .synSent, .synRecv, .finWait1, .finWait2, .timeWait, .close, .closeWait,
   .lastAck, .listen, .closing, .newSynRecv]

def name : TcpState → String
  | .established => "ESTABLISHED"
  | .synSent => "SYN_SENT"
  | .synRecv => "SYN_RECV"
  | .finWait1 => "FIN_WAIT1"
  | .finWait2 => "FIN_WAIT2"
  | .timeWait => "TIME_WAIT"
  | .close => "CLOSE"
  | .closeWait => "CLOSE_WAIT"
  | .lastAck => "LAST_ACK"
  | .listen => "LISTEN"
  | .closing => "CLOSING"
  | .newSynRecv => "NEW_SYN_RECV"

def ofCode? (code : Int) : Option TcpState :=
  if 0 < code then all[(code - 1).toNat]? else none

end TcpState

inductive IpVersion where
  | four
  | six
  deriving DecidableEq, Repr

namespace IpVersion

/-- The address families, in the order in which they are written to gauges. -/
def all : List IpVersion := [.four, .six]

/-- The value of the label of the address family. -/
def name : IpVersion → String
  | .four => "4"
  | .six => "6"

def ofName? (name : String) : Option IpVersion := all.find? (·.name = name)

end IpVersion

/-- A counted row: its state, if the code has one, and its address family. -/
structure Socket where
  state : Option TcpState
  version : IpVersion
  deriving DecidableEq, Repr

/-- The hexadecimal form in which all mapped addresses begin. -/
def mappedMark : List Char :=
  List.replicate 16 '0' ++ List.replicate 4 'F' ++ List.replicate 4 '0'

/-- Whether an address with a port maps an address of the first family; case does not matter. -/
def isMapped (address : List Char) : Bool :=
  match Text.splitFirst? ':' address with
  | some (host, _) => (host.take mappedMark.length).map Char.toUpper == mappedMark
  | none => false

/-- The state code and the two addresses of a row, if it has four columns and a code. -/
def row? (line : List Char) : Option (Int × List Char × List Char) :=
  match Text.words line with
  | _ :: localAddress :: remoteAddress :: code :: _ =>
    (hexInteger? code).map (·, localAddress, remoteAddress)
  | _ => none

/-- The socket of a row in the table of an address family. -/
def socket? (version : IpVersion) (line : List Char) : Option Socket :=
  (row? line).map fun (code, localAddress, remoteAddress) =>
    ⟨TcpState.ofCode? code,
      if version = .six ∧ (isMapped localAddress ∨ isMapped remoteAddress) then .four else version⟩

/-- The sockets of a table; its first line is a header. -/
def sockets (version : IpVersion) (table : List Char) : List Socket :=
  (Text.lines table).tail.filterMap (socket? version)

/-- Numbers of sockets by state and family, and of those with a code that is no state's. -/
structure SocketCounts where
  known : TcpState → IpVersion → Nat
  unknown : IpVersion → Nat

namespace SocketCounts

/-- The counts of no sockets. -/
def zero : SocketCounts := ⟨fun _ _ => 0, fun _ => 0⟩

def add (counts : SocketCounts) (more : List Socket) : SocketCounts where
  known state version := counts.known state version + more.count ⟨some state, version⟩
  unknown version := counts.unknown version + more.count ⟨none, version⟩

def addTable (counts : SocketCounts) (version : IpVersion) (table : List Char) : SocketCounts :=
  counts.add (sockets version table)

end SocketCounts

/-- What a row of a family without counters would have to be counted under. -/
inductive CountError where
  | unknownVersion (version : String)
  | noCounter (state : TcpState) (version : String)
  deriving DecidableEq, Repr

/-- The words for a count that has no place in the counts. -/
def CountError.message : CountError → String
  | .unknownVersion version => Text.quotedString version
  | .noCounter state version => s!"('{state.name}', {Text.quotedString version})"

/-- The counts with a table of a named family in them. A name that is no family's fails at the
first row that would be counted. -/
def SocketCounts.addNamedTable (counts : SocketCounts) (version : String) (table : List Char) :
    Except CountError SocketCounts :=
  match IpVersion.ofName? version with
  | some version => .ok (counts.addTable version table)
  | none =>
    match (Text.lines table).tail.findSome? row? with
    | none => .ok counts
    | some (code, _, _) =>
      match TcpState.ofCode? code with
      | none => .error (.unknownVersion version)
      | some state => .error (.noCounter state version)

/-- The sockets of a host. A missing table of the second family has none. -/
def readSockets (t : Tree) (procRoot : Path) : Except ReadError SocketCounts := do
  let net := procRoot.child "net"
  let four ← t.readText (net.child "tcp")
  let six ← match t.readText (net.child "tcp6") with
    | .ok text => .ok text
    | .error (.io error) => if error.error = .noSuchFile then .ok [] else .error (.io error)
    | .error error => .error error
  return (SocketCounts.zero.addTable .four four).addTable .six six

end PodGauges.Network
