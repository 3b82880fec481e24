import MathPage.Equation.Pass
import MathPage.Markdown.Abbreviations
import MathPage.Markdown.Attributes
import MathPage.Markdown.Block.Document
import MathPage.Markdown.Contents
import MathPage.Markdown.Fence
import MathPage.Markdown.Inline.Document
import MathPage.Markdown.RawHtml.Extract
import MathPage.Markdown.Tasks
import MathPage.Text.Utf8

/-!
# From Markdown to HTML

A text is brought into a normal form, its raw HTML is moved into a stash, its blocks make a tree, and
the inline markup of the tree is read. Then the equations are rendered, the tree is laid out and
written, and the raw HTML is put back.

* `Source.normalize` – the text that the rules see: without the control characters that open and
  close placeholders, with line feeds for all line ends, with spaces for tabs, with empty lines in
  place of blank ones, and with two line feeds at its end;
* `Markdown.tree` – the tree of a text, before its equations are rendered;
* `Markdown.write` – the HTML of a tree;
* `Markdown.convert` – the whole way, over a host that renders equations.
-/

namespace MathPage.Markdown

/-! ### Source text -/

namespace Source

/-- Writes spaces for tabs; a tab leads to the next column that is a multiple of four. -/
def expandTabs : Nat → Text → Text
  | _, [] => []
  | column, c :: t =>
    if c = '\t' then
      let n := 4 - column % 4
      List.replicate n ' ' ++ expandTabs 0 t
    else c :: expandTabs (if c = '\n' || c = '\r' then 0 else column + 1) t

/-- A line of spaces is empty. -/
def clearLine (l : Text) : Text := if l.all (· == ' ') then [] else l

/-- Empties the lines of spaces between the first line and the last. -/
def clearLines (t : Text) : Text :=
  match Text.lines t with
  | [] => []
  | l :: ls => Text.unlines (l :: (ls.dropLast.map clearLine ++ ls.getLast?.toList))

/-- The text that the rules see. -/
def normalize (t : Text) : Text :=
  let t := t.filter fun c => c != Stash.opening && c != Stash.closing
  clearLines (expandTabs 0 (Text.unifyLineEnds t ++ ['\n', '\n']))

end Source

/-! ### Conversion -/

/-- Moves the HTML of a text that is no markup of its own into the stash. -/
def protect (d : Dialect) (t : Text) (s : Stash) : Except MarkupFault (Text × Stash) :=
  match d with
  | .plain => .ok (RawHtml.extract t s)
  | .extended => (Fence.extract t s).map fun (t, s) => RawHtml.extract t s

/-- The tree of a text, with what the text and those before it define, and the stash. -/
def tree (d : Dialect) (t : Text) (defs : Definitions) (s : Stash) :
    Except MarkupFault (Element × Definitions × Stash) := do
  let (t, s) ← protect d (Source.normalize t) s
  let (root, defs) := Block.document d t defs
  let (root, s) := if d = .extended then Tasks.mark root s else (root, s)
  let (root, s) ← Inline.document d defs t.length root s
  return (root, defs, s)

mutual

/-- Writes the protected characters of an element as themselves, except in code. -/
def unprotect : Element → Element
  | ⟨tag, attributes, text, literal, children, tail⟩ =>
    ⟨tag, attributes.map fun (n, v) => (n, v.map Inline.Escaped.read),
      if tag = "code".toList then text else text.map Inline.Escaped.read, literal,
      unprotectAll children, tail.map Inline.Escaped.read⟩

/-- Writes the protected characters of several elements as themselves. -/
def unprotectAll : List Element → List Element
  | [] => []
  | e :: es => unprotect e :: unprotectAll es

end

/-- A tree with its line ends and with everything that depends on the whole document. -/
def arrange (d : Dialect) (defs : Definitions) (s : Stash) (root : Element) :
    Except MarkupFault Element :=
  let root := Layout.arrange root
  match d with
  | .plain => .ok (unprotect root)
  | .extended =>
    (Contents.build s (Abbreviations.expand defs (Attributes.attach root))).map unprotect

/-- The HTML of what is inside the root. -/
def write (d : Dialect) (defs : Definitions) (s : Stash) (root : Element) :
    Except MarkupFault Text := do
  let root ← arrange d defs s root
  let inner := Markup.content root.textD ++ Element.markups root.children
  return Text.strip (s.finish (Text.strip inner))

/-- What a converter keeps from one text to the next, and the outside. -/
structure Session (ω : Type) where
  stash : Stash := {}
  definitions : Definitions := {}
  outside : ω

variable {ω : Type}

/-- A result whose failure is a fault of markup. -/
def outcome (r : Except MarkupFault Text) : Except Failure Text := r.mapError .markup

/-- Converts a text. What was moved into the stash before a failure stays there. -/
def convert (d : Dialect) (h : Host ω) (t : Text) : Action (Session ω) Text := fun s =>
  if Text.allBlank t then (.ok [], s)
  else
    match tree d t s.definitions s.stash with
    | .error f => (.error (.markup f), s)
    | .ok (root, defs, stash) =>
      let p := Pass.run h root ⟨stash, s.outside⟩
      let s := ⟨p.state.stash, defs, p.state.outside⟩
      match p.failure with
      | some f => (.error f, s)
      | none => (outcome (write d defs s.stash p.made), s)

/-- Announces a text and converts it in the full dialect, in a session of its own. -/
def render (h : Host ω) (t : Text) : Action ω Text := do
  h.log .debug ("Converting ".toList ++ Text.decimal t.length ++
    " characters of Markdown...".toList)
  fun w =>
    let (r, s) := convert .extended h t { outside := w }
    (r, s.outside)

end MathPage.Markdown
