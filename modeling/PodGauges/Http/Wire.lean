import PodGauges.Http
import PodGauges.Number.Integer
import PodGauges.Text.Blank
import PodGauges.Text.Cutting

/-!
Requests and answers as they are sent over a connection.
-/

namespace PodGauges.Http

open Number Text

/-- A path with escaped characters written out; each escape is one character. -/
def unescaped : List Char → List Char
  | '%' :: a :: b :: rest =>
    match hexDigit? a, hexDigit? b with
    | some high, some low => Char.ofNat (16 * high + low) :: unescaped rest
    | _, _ => '%' :: unescaped (a :: b :: rest)
  | c :: rest => c :: unescaped rest
  | [] => []

/-- The request that a message begins with: a method and a target, of which the part before a
question mark is the path. -/
def Request.ofMessage? (message : List Char) : Option Request :=
  match words ((lines message).headD []) with
  | method :: target :: _ =>
    some ⟨String.ofList method, String.ofList (unescaped (target.takeWhile (· != '?')))⟩
  | _ => none

def headEnd : List Char := ['\r', '\n', '\r', '\n']

/-- Whether the head of a message has been received. -/
def hasHead : List Char → Bool
  | [] => false
  | c :: rest => headEnd.isPrefixOf (c :: rest) || hasHead rest

/-- An answer as it is sent; its length in bytes is part of it. -/
def Response.message (response : Response) : String :=
  let length := ("Content-Length", decimalText response.body.utf8ByteSize)
  "HTTP/1.0 " ++ response.status ++ "\r\n" ++
    String.join ((response.headers ++ [length]).map fun (k, v) => k ++ ": " ++ v ++ "\r\n") ++
    "\r\n" ++ response.body

end PodGauges.Http
