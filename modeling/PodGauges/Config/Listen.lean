import PodGauges.Config.Error
import PodGauges.Number.Integer
import PodGauges.Text.Cutting

/-!
The address to listen at: a host and a port with a colon between them. A host that itself holds
colons stands in square brackets.
-/

namespace PodGauges.Config

structure Listen where
  host : String
  port : Nat
  deriving DecidableEq, Repr

namespace Listen

/-- The last port. -/
def maxPort : Int := 65535

/-- A host without the brackets around it; one without brackets may hold no colon. -/
def host? (host : List Char) : Option (List Char) :=
  if host.head? = some '[' ∧ host.getLast? = some ']' then some (host.drop 1).dropLast
  else if ':' ∈ host then none
  else some host

/-- The address that a text gives, white space around it ignored. -/
def ofText (text : List Char) : Except Fault Listen :=
  let text := Text.trim text
  let refuse (fault : ListenFault) : Except Fault Listen :=
    .error (.listen fault (String.ofList text))
  match Text.splitLast? ':' text with
  | none => refuse .noHostOrPort
  | some ([], _) => refuse .noHostOrPort
  | some (host, port) =>
    match host? host with
    | none => refuse .bareAddress
    | some host =>
      match Number.integer? port with
      | none => refuse .badPort
      | some port =>
        if 0 ≤ port ∧ port ≤ maxPort then .ok ⟨String.ofList host, port.toNat⟩
        else refuse .portOutOfRange

/-- An address as it is written in logs. -/
def text (listen : Listen) : String := s!"{listen.host}:{listen.port}"

end Listen

end PodGauges.Config
