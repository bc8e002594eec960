import PodGauges.File.Tree
import PodGauges.Text.Cutting
import PodGauges.Text.Quoted

/-!
Reading files as text, and the wording of failures on paths.
-/

namespace PodGauges.File

/-- The wording of a failure names the error and quotes the path. -/
def IoError.message (e : IoError) : String := s!"{e.error.report}: {Text.quotedString e.path}"

/-- Why a file gave no text. -/
inductive ReadError where
  | io (error : IoError)
  | undecodable (error : Text.Utf8.DecodeError)
  deriving DecidableEq, Repr

/-- The words for a failed reading of text. -/
def ReadError.message : ReadError → String
  | .io error => error.message
  | .undecodable error => error.message

namespace Tree

/-- The text of a file, with U+FFFD for bytes that are no text and line feeds as line ends. -/
def readLossy (t : Tree) (p : Path) : Except IoError (List Char) :=
  match t.read p with
  | .ok bytes => .ok (Text.unifyNewlines (Text.Utf8.decodeLossy bytes))
  | .error error => .error ⟨error, p.toString⟩

/-- The text of a file that has to be UTF-8 throughout. -/
def readText (t : Tree) (p : Path) : Except ReadError (List Char) :=
  match t.read p with
  | .ok bytes =>
    match Text.Utf8.decode bytes with
    | .ok text => .ok (Text.unifyNewlines text)
    | .error error => .error (.undecodable error)
  | .error error => .error (.io ⟨error, p.toString⟩)

end Tree

end PodGauges.File
