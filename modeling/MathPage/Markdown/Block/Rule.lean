import MathPage.Document.Element
import MathPage.Markdown.Dialect

/-!
# Block rules

The text of a document is cut at its empty lines into blocks. A rule looks at the next block, adds
to the element under construction what it makes of it, and leaves the blocks that are still to be
read, which may begin with what it did not use.

* `Mode` – what the blocks stand in, where this changes how they are read;
* `Parse` – reading blocks into an element; rules use it for what they contain;
* `Rule` – one step, if the rule applies;
* `parse` – the steps of the first rule that applies, until no block is left. Its last argument
  bounds the number of steps on the way to any place of the document.
-/

namespace MathPage.Markdown.Block

/-- What blocks stand in. -/
inductive Mode where
  | page
  /-- a block that has lost the indentation of the list it belongs to -/
  | detabbed
  /-- an item whose text needs no paragraph -/
  | list
  /-- an item whose text is a paragraph -/
  | looseList
  | quote
  deriving DecidableEq, Repr

/-- Reads blocks into an element. -/
abbrev Parse := Mode → Element → List Text → Definitions → Element × Definitions

/-- What a rule leaves: the element, the blocks still to be read and the definitions. -/
structure Step where
  parent : Element
  rest : List Text
  definitions : Definitions

/-- A rule for the next block, given how to read blocks, the mode, the element under construction,
the block, the blocks behind it and the definitions. -/
abbrev Rule := Parse → Mode → Element → Text → List Text → Definitions → Option Step

/-- The step of the first rule that applies. -/
def first (rules : List Rule) : Rule := fun parse mode parent block rest defs =>
  rules.findSome? fun rule => rule parse mode parent block rest defs

/-- Reads blocks by rules. -/
def parse (rules : List Rule) : Nat → Parse
  | 0, _, parent, _, defs => (parent, defs)
  | _ + 1, _, parent, [], defs => (parent, defs)
  | fuel + 1, mode, parent, block :: rest, defs =>
    match first rules (parse rules fuel) mode parent block rest defs with
    | some s => parse rules fuel mode s.parent s.rest s.definitions
    | none => (parent, defs)

/-- The blocks of a text. -/
def split (t : Text) : List Text := Text.split "\n\n".toList t

/-- Puts a text in front of the blocks still to be read, unless it is empty. -/
def before (t : Text) (rest : List Text) : List Text := if t.isEmpty then rest else t :: rest

/-- Whether an element has one of the given tags. -/
def isOneOf (tags : List String) (e : Element) : Bool := tags.any e.hasTag

/-- The last child of an element, if it has one of the given tags. -/
def lastOneOf? (tags : List String) (e : Element) : Option Element :=
  e.last?.filter (isOneOf tags)

/-- Reads one block into a new child. -/
def child (parse : Parse) (mode : Mode) (parent : Element) (tag : String) (block : Text)
    (defs : Definitions) : Element × Definitions :=
  let (c, defs) := parse mode { tag := tag.toList } [block] defs
  (parent.push c, defs)

/-- Reads blocks into the last child. -/
def intoLast (parse : Parse) (mode : Mode) (parent : Element) (blocks : List Text)
    (defs : Definitions) : Element × Definitions :=
  match parent.last? with
  | none => (parent, defs)
  | some c =>
    let (c, defs) := parse mode c blocks defs
    (parent.updateLast fun _ => c, defs)

/-- The text of an element becomes its first paragraph. -/
def wrapText (e : Element) : Element :=
  if e.textD.isEmpty then e
  else { e with text := some [], children := Element.leaf "p" e.textD :: e.children }

end MathPage.Markdown.Block
