import PodGauges.Text.Cutting

/-!
File paths. A path is a list of names behind an anchor; empty names and single dots vanish when it
is read, double dots stay.
-/

namespace PodGauges.File

/-- What stands in front of the names: nothing, the root, or the root spelled with two slashes. -/
inductive Anchor where
  | relative
  | root
  | doubleRoot
  deriving DecidableEq, Repr

/-- What a path of an anchor begins with. -/
def Anchor.text : Anchor → String
  | .relative => ""
  | .root => "/"
  | .doubleRoot => "//"

/-- A path in normal form: an anchor and the names below it. -/
structure Path where
  anchor : Anchor
  names : List String
  deriving DecidableEq, Repr

namespace Path

/-- The names between slashes that mean something. -/
def namesOf (s : List Char) : List String :=
  ((Text.splitAll '/' s).filter fun name => name ≠ [] ∧ name ≠ ['.']).map String.ofList

/-- Exactly two leading slashes are an anchor of their own; any other number is the root. -/
def ofString (s : String) : Path :=
  let slashes := s.toList.takeWhile (· == '/')
  let anchor : Anchor := match slashes.length with
    | 0 => .relative
    | 2 => .doubleRoot
    | _ => .root
  ⟨anchor, namesOf s.toList⟩

/-- The empty path is written as a dot. -/
def toString (p : Path) : String :=
  let text := p.anchor.text ++ "/".intercalate p.names
  if text.isEmpty then "." else text

/-- A path below another one; an anchored path replaces what it is joined to. -/
def join (p q : Path) : Path :=
  match q.anchor with
  | .relative => ⟨p.anchor, p.names ++ q.names⟩
  | _ => q

def child (p : Path) (name : String) : Path := ⟨p.anchor, p.names ++ [name]⟩

end Path

end PodGauges.File
