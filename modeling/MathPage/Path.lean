import MathPage.Text.Basic

/-!
# Paths

A path is written as names between slashes. Empty names and `.` say nothing and are dropped; `..`
stays until the path is resolved, because it says something only relative to what stands before it.

* `Path.ofText`, `Path.toText` – reading and writing;
* `Path.join` – a path seen from another one;
* `Path.walk` – follows the names from a place, where `..` goes one step up and stays at the root;
* `Place` – an absolute path without `.` and `..`: the list of the names on the way from the root.
-/

namespace MathPage

/-- Where a path starts: at the current place, at the root, or at the root written with exactly
two slashes. -/
inductive Path.Anchor where
  | here
  | root
  | doubleRoot
  deriving DecidableEq, Repr

/-- A path as it was written, without the names that say nothing. -/
structure Path where
  anchor : Path.Anchor
  names : List Text
  deriving DecidableEq, Repr

/-- A place in the file tree: the names on the way from the root, none of them `.` or `..`. -/
abbrev Place := List Text

namespace Path

/-- Whether a name says something on the way. -/
def isName (t : Text) : Bool := !t.isEmpty && t != ['.']

/-- The anchor that the leading slashes stand for. -/
def anchorOf : Text → Anchor
  | '/' :: '/' :: '/' :: _ => .root
  | '/' :: '/' :: _ => .doubleRoot
  | '/' :: _ => .root
  | _ => .here

/-- Reads a path. -/
def ofText (t : Text) : Path :=
  { anchor := anchorOf t, names := (Text.splitChar '/' t).filter isName }

/-- Writes a path; the empty relative one is a dot. -/
def toText (p : Path) : Text :=
  match p.anchor with
  | .here => if p.names.isEmpty then ['.'] else Text.join ['/'] p.names
  | .root => '/' :: Text.join ['/'] p.names
  | .doubleRoot => '/' :: '/' :: Text.join ['/'] p.names

/-- The path `q` seen from `p`: a path that starts at the root is the same from everywhere. -/
def join (p q : Path) : Path :=
  match q.anchor with
  | .here => ⟨p.anchor, p.names ++ q.names⟩
  | .root | .doubleRoot => q

/-- One step on the way: up, if the name is `..` and there is an up, else down. -/
def step (place : Place) (name : Text) : Place :=
  if name = ['.', '.'] then place.dropLast
  else if isName name then place ++ [name]
  else place

/-- Follows names from a place. -/
def walk (place : Place) (names : List Text) : Place := names.foldl step place

/-- The place that a path leads to from a current place. Whether anything exists there or on the
way plays no part. -/
def resolve (current : Place) (p : Path) : Place :=
  match p.anchor with
  | .here => walk current p.names
  | .root | .doubleRoot => walk [] p.names

/-- The path of a place. -/
def ofPlace (place : Place) : Path := ⟨.root, place⟩

end Path

namespace Place

/-- How a place is written. -/
def toText (place : Place) : Text := (Path.ofPlace place).toText

end Place

end MathPage
