import MathPage.Text.Class

/-!
# Document trees

A document is a tree of elements. An element has a tag, attributes, a text before its first child,
its children, and a tail, the text between it and its next sibling.

* `Element.leaf`, `Element.node` – elements without attributes;
* `Element.get?`, `Element.set` – attributes with a value; `Element.entry?`, `Element.put` – with or
  without one;
* `Element.atPath?`, `Element.updateAt` – the element at a path of child positions;
* `isBlockTag`, `isVoidTag`, `isHeadingTag` – elements that stand on lines of their own, that never
  have content, and `h1` to `h6`;
* `Element.depth` – the number of elements on the longest way down;
* `Element.alterM`, `Element.alter` – a change at every element, parents before children;
* `Element.texts` – all text inside an element, in document order.
-/

namespace MathPage

/-- An element of a document tree. An attribute may stand without a value. The `literal` text of an
element holds no inline markup. -/
structure Element where
  tag : Text
  attributes : List (Text × Option Text) := []
  text : Option Text := none
  literal : Bool := false
  children : List Element := []
  tail : Option Text := none
  deriving Inhabited

namespace Element

/-- An element that holds a text only. -/
def leaf (tag : String) (text : Text) : Element := { tag := tag.toList, text := some text }

/-- An element that holds other elements only. -/
def node (tag : String) (children : List Element) : Element :=
  { tag := tag.toList, children := children }

/-- Whether the element has a given tag. -/
def hasTag (e : Element) (tag : String) : Bool := e.tag == tag.toList

/-- An attribute, which may have no value. -/
def entry? (e : Element) (name : Text) : Option (Option Text) :=
  (e.attributes.find? (·.1 == name)).map (·.2)

/-- The value of an attribute. -/
def get? (e : Element) (name : Text) : Option Text := (e.entry? name).bind id

/-- Puts an entry in the place of the one with the same name, or at the end. -/
def putEntry {α : Type} (name : Text) (value : α) : List (Text × α) → List (Text × α)
  | [] => [(name, value)]
  | (n, v) :: es => if n = name then (name, value) :: es else (n, v) :: putEntry name value es

/-- Puts an attribute, with or without a value. -/
def put (e : Element) (name : Text) (value : Option Text) : Element :=
  { e with attributes := putEntry name value e.attributes }

/-- Sets an attribute. -/
def set (e : Element) (name value : Text) : Element := e.put name (some value)

/-- The text of an element, empty if there is none. -/
def textD (e : Element) : Text := e.text.getD []

/-- The tail of an element, empty if there is none. -/
def tailD (e : Element) : Text := e.tail.getD []

/-- The last child. -/
def last? (e : Element) : Option Element := e.children.getLast?

/-- Adds a child at the end. -/
def push (e : Element) (c : Element) : Element := { e with children := e.children ++ [c] }

/-- Changes the last child, if there is one. -/
def updateLast (e : Element) (f : Element → Element) : Element :=
  match e.children.reverse with
  | [] => e
  | c :: cs => { e with children := (f c :: cs).reverse }

/-- The element at a path of child positions. -/
def atPath? : List Nat → Element → Option Element
  | [], e => some e
  | i :: p, e =>
    match e.children[i]? with
    | some c => atPath? p c
    | none => none

/-- Changes the element at a path of child positions; a path out of the tree changes nothing. -/
def updateAt (f : Element → Element) : List Nat → Element → Element
  | [], e => f e
  | i :: p, e => { e with children := e.children.modify i (updateAt f p) }

end Element

/-! ### Classes of tags -/

/-- The tags of elements that stand on lines of their own. -/
def blockTags : List String :=
  ["address", "article", "aside", "blockquote", "details", "div", "dl", "fieldset", "figcaption",
    "figure", "footer", "form", "h1", "h2", "h3", "h4", "h5", "h6", "header", "hgroup", "hr",
    "main", "menu", "nav", "ol", "p", "pre", "section", "table", "ul", "canvas", "colgroup", "dd",
    "body", "dt", "group", "html", "iframe", "li", "legend", "math", "map", "noscript", "output",
    "object", "option", "progress", "script", "style", "summary", "tbody", "td", "textarea",
    "tfoot", "th", "thead", "tr", "video", "center"]

/-- Whether a tag, as it is written, is that of an element on lines of its own. -/
def isBlockTag (tag : Text) : Bool :=
  let t := Text.trimRight (· == '/') (Text.lower tag)
  blockTags.any (·.toList == t)

/-- The tags of elements without content. -/
def voidTags : List String :=
  ["area", "base", "basefont", "br", "col", "frame", "hr", "img", "input", "isindex", "link",
    "meta", "param"]

/-- Whether a tag is that of an element without content. -/
def isVoidTag (tag : Text) : Bool :=
  let t := Text.lower tag
  voidTags.any (·.toList == t)

/-- Whether a tag is that of a heading. -/
def isHeadingTag (tag : Text) : Bool :=
  match tag with
  | ['h', c] => '1' ≤ c && c ≤ '6'
  | _ => false

namespace Element

/-- Whether an element stands on lines of its own. -/
def isBlock (e : Element) : Bool := isBlockTag e.tag

/-- Whether an element is a heading. -/
def isHeading (e : Element) : Bool := isHeadingTag e.tag

/-! ### Walks over trees -/

mutual

/-- The number of elements on the longest way down, the element itself included. -/
def depth : Element → Nat
  | ⟨_, _, _, _, children, _⟩ => depths children + 1

/-- The greatest depth of several elements. -/
def depths : List Element → Nat
  | [] => 0
  | e :: es => max (depth e) (depths es)

end

/-- Changes the elements of the upper levels of a tree, parents before children. -/
def alterLevels {m : Type → Type} [Monad m] (f : Element → m Element) : Nat → Element → m Element
  | 0, e => pure e
  | n + 1, e => do
    let e ← f e
    let children ← e.children.mapM (alterLevels f n)
    return { e with children := children }

/-- Changes every element of a tree, parents before children, by changes that make no tree
deeper. -/
def alterM {m : Type → Type} [Monad m] (f : Element → m Element) (e : Element) : m Element :=
  alterLevels f e.depth e

/-- Changes every element of a tree, parents before children. -/
def alter (f : Element → Element) (e : Element) : Element :=
  Id.run (alterM (fun e => pure (f e)) e)

mutual

/-- All text inside an element. -/
def texts : Element → Text
  | ⟨_, _, text, _, children, _⟩ => text.getD [] ++ textsOf children

/-- All text inside several elements and behind each of them. -/
def textsOf : List Element → Text
  | [] => []
  | e :: es => texts e ++ e.tailD ++ textsOf es

end

end Element

end MathPage
