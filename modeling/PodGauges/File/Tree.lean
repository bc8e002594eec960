import PodGauges.File.Errno
import PodGauges.File.Path
import PodGauges.Text.Utf8

/-!
A tree of files as a value: the entries it holds, each under the list of names that leads to it
from the root without passing a link. Looking a path up follows links; reading, listing and the
tests for a directory or a regular file are stated through that look-up.
-/

namespace PodGauges.File

/-- What a name stands for. A faulty file exists, but cannot be opened; a link holds the steps of
its target, the first of which is empty if the target is anchored. -/
inductive Entry where
  | directory
  | file (bytes : List UInt8)
  | faulty (error : Errno)
  | link (steps : List String)
  deriving DecidableEq, Repr

def Entry.linkTo (target : String) : Entry :=
  .link ((Text.splitAll '/' target.toList).map String.ofList)

/-- The entries of a tree, which stand in no order of their own: a directory can list what it holds
in any order. -/
structure Tree where
  entries : List (List String × Entry)

namespace Tree

def empty : Tree := ⟨[]⟩

/-- The entry at a place; the root is a directory. -/
def entry? (t : Tree) (place : List String) : Option Entry :=
  if place = [] then some .directory else t.entries.lookup place

/-- The longest name, in bytes. -/
def maxNameBytes : Nat := 255

def maxLinks : Nat := 40

/-- Where the steps of a path lead from a place, with a way to go on behind a link. Every step
needs a directory to stand in; empty steps and single dots stay there, double dots go up. -/
def walk (t : Tree) (follow : List String → List String → Except Errno (List String)) :
    List String → List String → Except Errno (List String)
  | here, [] => .ok here
  | here, name :: rest =>
    if t.entry? here ≠ some .directory then .error .notADirectory
    else if name = "" ∨ name = "." then walk t follow here rest
    else if name = ".." then walk t follow here.dropLast rest
    else if maxNameBytes < name.utf8ByteSize then .error .nameTooLong
    else match t.entry? (here ++ [name]) with
      | none => .error .noSuchFile
      | some (.link steps) => follow here (steps ++ rest)
      | some _ => walk t follow (here ++ [name]) rest

/-- Where steps lead when a limited number of links may be followed; an anchored target starts from
the root again. -/
def resolve (t : Tree) : Nat → List String → List String → Except Errno (List String)
  | 0 => walk t fun _ _ => .error .tooManyLinks
  | links + 1 => walk t fun here steps =>
      match steps with
      | "" :: rest => resolve t links (if rest = [] then here else []) rest
      | _ => resolve t links here steps

def locate (t : Tree) (p : Path) : Except Errno (List String) := t.resolve maxLinks [] p.names

/-- The entry that a path names, links followed. -/
def status (t : Tree) (p : Path) : Except Errno Entry := do
  let place ← t.locate p
  match t.entry? place with
  | some entry => .ok entry
  | none => .error .noSuchFile

def read (t : Tree) (p : Path) : Except Errno (List UInt8) := do
  match ← t.status p with
  | .file bytes => .ok bytes
  | .faulty error => .error error
  | .directory => .error .isADirectory
  | .link _ => .error .tooManyLinks

/-- The errors that only mean that a path names nothing. -/
def isAbsence (e : Errno) : Bool :=
  e = .noSuchFile ∨ e = .notADirectory ∨ e = .badDescriptor ∨ e = .tooManyLinks

/-- A test of what a path names; a path that names nothing fails every test. -/
def test (t : Tree) (accepts : Entry → Bool) (p : Path) : Except Errno Bool :=
  match t.status p with
  | .ok entry => .ok (accepts entry)
  | .error e => if isAbsence e then .ok false else .error e

/-- Whether a path leads to a directory; what is absent is none. -/
def isDirectory (t : Tree) (p : Path) : Except Errno Bool :=
  t.test (fun entry => entry = .directory) p

/-- Regular files include faulty ones. -/
def isFile (t : Tree) (p : Path) : Except Errno Bool :=
  t.test (fun | .file _ | .faulty _ => true | _ => false) p

/-- Whether a path names anything, whatever keeps it from being looked up. -/
def isPresent (t : Tree) (p : Path) : Bool :=
  match t.status p with
  | .ok _ => true
  | .error _ => false

def namesAt (t : Tree) (place : List String) : List String :=
  t.entries.filterMap fun (path, _) =>
    if path.dropLast = place then path.getLast? else none

/-- The names in a directory, in the order in which the tree has them. -/
def list (t : Tree) (p : Path) : Except Errno (List String) := do
  let place ← t.locate p
  match t.entry? place with
  | some .directory => .ok (t.namesAt place)
  | some _ => .error .notADirectory
  | none => .error .noSuchFile

/-- Lists of names in order of their first difference. -/
def namesBefore : List String → List String → Bool
  | [], _ => true
  | _ :: _, [] => false
  | a :: s, b :: t => a < b || (a == b && namesBefore s t)

def below? : List String → List String → Option (List String)
  | [], names => some names
  | _ :: _, [] => none
  | a :: place, b :: names => if a = b then below? place names else none

/-- Everything below the directory at a place, relative to it and in order of names. Links are
listed and not entered. There is room for a walk of any depth; how far a real one gets before its
stack is used up is not modelled. -/
def descendants (t : Tree) (place : List String) : List (List String) :=
  let below := t.entries.filterMap fun (path, _) =>
    match below? place path with
    | some (name :: rest) => some (name :: rest)
    | _ => none
  below.mergeSort namesBefore

/-- The tree without a place and all below it. -/
def remove (t : Tree) (place : List String) : Tree :=
  ⟨t.entries.filter fun (path, _) => (below? place path).isNone⟩

/-- The tree with an empty directory at a place that held nothing. -/
def addDirectory (t : Tree) (place : List String) : Tree := ⟨t.entries ++ [(place, .directory)]⟩

/-- The directory for one more name behind a place: the one that is there, or that a link there
leads to, or a new one in place of anything else. -/
def enter (t : Tree) (place : List String) (name : String) : Tree × List String :=
  let next := place ++ [name]
  let target := (t.resolve maxLinks place [name]).toOption.getD next
  if t.entry? target = some .directory then (t, target)
  else ((t.remove next).addDirectory next, next)

/-- The tree with one entry put or replaced, directories above it made as needed. A directory that
is already there keeps what it holds. -/
def put (t : Tree) (names : List String) (entry : Entry) : Tree :=
  match names.getLast? with
  | none => t
  | some last =>
    let (t, place) := names.dropLast.foldl (fun (t, place) name => t.enter place name) (t, [])
    let place := place ++ [last]
    if entry = .directory ∧ t.entry? place = some .directory then t
    else ⟨(t.remove place).entries ++ [(place, entry)]⟩

end Tree

structure IoError where
  error : Errno
  path : String
  deriving DecidableEq, Repr

end PodGauges.File
