import PodGauges.File.Text
import PodGauges.Log

/-!
The metadata that a volume holds as files: each regular file is a field, named by its path below
the volume. Entries on the first level that begin with two dots are the volume's own bookkeeping.
-/

namespace PodGauges.Downward

open File

abbrev Field := String × String

/-- Whether an entry is not the volume's own. -/
def isVisible (names : List String) : Bool :=
  match names with
  | name :: _ => !("..".isPrefixOf name)
  | [] => false

/-- The trimmed content of a file; one that cannot be read is empty, which is logged. -/
def valueOf (t : Tree) (path : Path) : String × List Log.Record :=
  match t.readLossy path with
  | .ok text => (String.ofList (Text.trim text), [])
  | .error error =>
    ("", [⟨.warning, .downward,
      s!"could not read downward api file {path.toString}: {error.message}"⟩])

/-- The fields among some entries, up to the first whose kind cannot be told. -/
def fieldsOf (t : Tree) (root : Path) :
    List (List String) → Except IoError (List Field) × List Log.Record
  | [] => (.ok [], [])
  | names :: rest =>
    let path : Path := ⟨root.anchor, root.names ++ names⟩
    if isVisible names then
      match t.isFile path with
      | .error error => (.error ⟨error, path.toString⟩, [])
      | .ok false => fieldsOf t root rest
      | .ok true =>
        let (value, log) := valueOf t path
        let (fields, logs) := fieldsOf t root rest
        (fields.map (("/".intercalate names, value) :: ·), log ++ logs)
    else fieldsOf t root rest

/-- The fields of a volume, in the order of their names; a volume that is not there has none. -/
def read (t : Tree) (root : Path) : Except IoError (List Field) × List Log.Record :=
  match t.isDirectory root with
  | .error error => (.error ⟨error, root.toString⟩, [])
  | .ok false => (.ok [], [])
  | .ok true =>
    match t.locate root with
    | .error _ => (.ok [], [])
    | .ok place => fieldsOf t root (t.descendants place)

end PodGauges.Downward
