import MathPage.Document.Element

/-!
# Line ends between elements

* `Layout.lines` – puts elements that stand on lines of their own on such lines;
* `Layout.details` – a line end behind each line break, and one line end at the end of code.
-/

namespace MathPage.Markdown.Layout

/-- A text, or a line end if it holds nothing but blanks. -/
def orLineEnd (o : Option Text) : Option Text :=
  if Text.allBlank (o.getD []) then some ['\n'] else o

mutual

/-- Puts line ends into an element and behind it. -/
def lines : Element → Element
  | ⟨tag, attributes, text, literal, children, tail⟩ =>
    if isBlockTag tag && tag != "code".toList && tag != "pre".toList then
      let text := if children.head?.any Element.isBlock then orLineEnd text else text
      ⟨tag, attributes, text, literal, linesOf children, orLineEnd tail⟩
    else ⟨tag, attributes, text, literal, children, orLineEnd tail⟩

/-- Puts line ends into the elements that stand on lines of their own. -/
def linesOf : List Element → List Element
  | [] => []
  | e :: es => (if e.isBlock then lines e else e) :: linesOf es

end

/-- A line break is followed by a line end. -/
def lineBreak (e : Element) : Element :=
  if e.hasTag "br" then
    { e with tail := if Text.allBlank e.tailD then some ['\n'] else some ('\n' :: e.tailD) }
  else e

/-- Code ends in one line end. -/
def codeEnd (e : Element) : Element :=
  match e.hasTag "pre", e.children with
  | true, c :: cs =>
    match c.hasTag "code" && c.children.isEmpty, c.text with
    | true, some t =>
      { e with
        children := { c with text := some (Text.stripRight t ++ ['\n']), literal := true } :: cs }
    | _, _ => e
  | _, _ => e

mutual

/-- Puts line ends behind line breaks and at the end of code. -/
def details : Element → Element
  | ⟨tag, attributes, text, literal, children, tail⟩ =>
    codeEnd (lineBreak ⟨tag, attributes, text, literal, detailsOf children, tail⟩)

/-- The same for several elements. -/
def detailsOf : List Element → List Element
  | [] => []
  | e :: es => details e :: detailsOf es

end

/-- A tree with all its line ends. -/
def arrange (root : Element) : Element := details (lines root)

end MathPage.Markdown.Layout
