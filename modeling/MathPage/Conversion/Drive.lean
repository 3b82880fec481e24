import MathPage.Failure

/-!
# Files

* `Drive` – what exists at which place: files with their bytes, and folders;
* `Drive.open?` – the way to a place, with the fault that stops it;
* `Drive.read`, `Drive.write` – whole files.

Writing touches no other place and either stores all bytes or changes nothing.
-/

namespace MathPage

/-- What can exist at a place. -/
inductive Drive.Node where
  | file (bytes : List UInt8)
  | folder
  deriving DecidableEq, Repr

/-- The files and folders that exist beside the root, which always does. -/
structure Drive where
  nodes : List (Place × Drive.Node) := []

namespace Drive

/-- What exists at a place. -/
def get? (d : Drive) (p : Place) : Option Node :=
  if p.isEmpty then some .folder else (d.nodes.find? (·.1 == p)).map (·.2)

/-- Puts a node in the place of the one that was there, or adds it. -/
def putNode (p : Place) (n : Node) : List (Place × Node) → List (Place × Node)
  | [] => [(p, n)]
  | (q, m) :: rest => if q = p then (p, n) :: rest else (q, m) :: putNode p n rest

/-- Puts a node at a place. -/
def put (d : Drive) (p : Place) (n : Node) : Drive := ⟨putNode p n d.nodes⟩

/-- The greatest number of bytes in a name. -/
def nameLimit : Nat := 255

/-- Follows the names behind the folder `here`; what exists at the last of them, if anything. -/
def follow (d : Drive) (here : Place) : List Text → Except FileFault (Option Node)
  | [] => .ok (d.get? here)
  | [name] =>
    if nameLimit < (Utf8.encode name).length then .error .nameTooLong
    else .ok (d.get? (here ++ [name]))
  | name :: rest =>
    if nameLimit < (Utf8.encode name).length then .error .nameTooLong
    else
      match d.get? (here ++ [name]) with
      | some .folder => follow d (here ++ [name]) rest
      | some (.file _) => .error .notFolder
      | none => .error .absent

/-- What exists at a place, or the fault on the way there. -/
def open? (d : Drive) (p : Place) : Except FileFault (Option Node) := d.follow [] p

/-- The bytes of the file at a place. -/
def read (d : Drive) (p : Place) : Except Failure (List UInt8) :=
  match d.open? p with
  | .ok (some (.file bytes)) => .ok bytes
  | .ok (some .folder) => .error (.file .isFolder p)
  | .ok none => .error (.file .absent p)
  | .error f => .error (.file f p)

/-- The drive with a file at a place. -/
def write (d : Drive) (p : Place) (bytes : List UInt8) : Except Failure Drive :=
  match d.open? p with
  | .ok (some .folder) => .error (.file .isFolder p)
  | .ok _ => .ok (d.put p (.file bytes))
  | .error f => .error (.file f p)

/-- The text of the file at a place, with line feeds for all line ends. -/
def readText (d : Drive) (p : Place) : Except Failure Text := do
  let bytes ← d.read p
  let t ← (Utf8.decode bytes).mapError Failure.encoding
  return Text.unifyLineEnds t

end Drive

end MathPage
