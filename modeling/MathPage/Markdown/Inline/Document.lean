import MathPage.Markdown.Inline.Emphasis
import MathPage.Markdown.Inline.Link
import MathPage.Markdown.Inline.Span

/-!
# Inline markup of a document

* `rules` – the rules of a dialect, in the order in which they are applied;
* `Site.readSiblings` – reads the texts and the tails of several siblings;
* `Site.round` – reads one level of a tree;
* `document` – reads all text of a tree.

Inline elements go to where their placeholders were: those of a text become the first children of its
element, those of a tail the next siblings. What is inside an inline element is read once more,
where its own text was taken out.
-/

namespace MathPage.Markdown.Inline

/-- The rules of a dialect. -/
def rules (d : Dialect) (defs : Definitions) : List Rule :=
  [code] ++ (if d = .extended then [mathematics] else []) ++
    [escape d, referenced defs .link, link .link, link .image, referenced defs .image,
      named defs .link, named defs .image, address, mail, lineBreak, tag, entity] ++
    (Style.groups d).map emphasis

/-- A text, unless it is empty. -/
def present (t : Text) : Option Text := if t.isEmpty then none else some t

/-- Reads a text into the text in front of its first element and its elements. -/
def expand (rules : List Rule) (t : Text) (s : State) : (Text × List Element) × State :=
  let (t, s) := read rules s t
  (s.nodes.resolve t, s)

/-- Reads the text of an element; gives the inline elements that it holds. -/
def openText (rules : List Rule) (e : Element) (s : State) : Element × List Element × State :=
  if e.literal || e.textD.isEmpty then (e, [], s)
  else
    let ((lead, es), s) := expand rules e.textD s
    ({ e with text := present lead }, es, s)

/-- Reads the tail of an element; gives the inline elements that follow it. -/
def openTail (rules : List Rule) (e : Element) (s : State) : Element × List Element × State :=
  if e.tailD.isEmpty then (e, [], s)
  else
    let ((lead, es), s) := expand rules e.tailD s
    ({ e with tail := present lead }, es, s)

/-! ### Rounds -/

/-- An element of a tree that is being read: whether it is due, that is, whether its children are
read in the next round, and its children. -/
inductive Site where
  | mk (element : Element) (due : Bool) (below : List Site)

namespace Site

mutual

/-- An element that is not due, nor anything below it. -/
def ofElement : Element → Site
  | ⟨tag, attributes, text, literal, children, tail⟩ =>
    .mk { tag, attributes, text, literal, tail } false (ofElements children)

/-- Elements that are not due. -/
def ofElements : List Element → List Site
  | [] => []
  | e :: es => ofElement e :: ofElements es

end

mutual

/-- The tree. -/
def toElement : Site → Element
  | .mk e _ below => { e with children := toElements below }

/-- The trees. -/
def toElements : List Site → List Element
  | [] => []
  | e :: es => toElement e :: toElements es

end

/-- The same, due. -/
def mark : Site → Site
  | .mk e _ below => .mk e true below

mutual

/-- Whether an element is due, or one below it. -/
def isDue : Site → Bool
  | .mk _ due below => due || anyDue below

/-- Whether one of several elements is due, or one below them. -/
def anyDue : List Site → Bool
  | [] => false
  | e :: es => isDue e || anyDue es

end

/-- Reads the texts and the tails of siblings. The inline elements of a text are due next, and so
is a sibling that has had children before; those of a tail are siblings themselves. `fuel` bounds the
number of siblings. -/
def readSiblings (rules : List Rule) : Nat → List Site → State → List Site × State
  | 0, es, s => (es, s)
  | _ + 1, [], s => ([], s)
  | fuel + 1, .mk e _ below :: rest, s =>
    let (e, inner, s) := openText rules e s
    let (e, next, s) := openTail rules e s
    let (rest, s) := readSiblings rules fuel (next.map ofElement ++ rest) s
    (.mk e (!below.isEmpty) (inner.map (fun n => (ofElement n).mark) ++ below) :: rest, s)

mutual

/-- Reads the children of every element that is due, those further down first. -/
def round (rules : List Rule) (fuel : Nat) : Site → State → Site × State
  | .mk e due below, s =>
    let (below, s) := roundAll rules fuel below s
    let (below, s) := if due then readSiblings rules fuel below s else (below, s)
    (.mk e false below, s)

/-- A round over several elements. -/
def roundAll (rules : List Rule) (fuel : Nat) : List Site → State → List Site × State
  | [], s => ([], s)
  | e :: es, s =>
    let (e, s) := round rules fuel e s
    let (es, s) := roundAll rules fuel es s
    (e :: es, s)

end

/-- Reads until nothing is due, in at most so many rounds. -/
def readRounds (rules : List Rule) (fuel : Nat) : Nat → Site → State → Site × State
  | 0, e, s => (e, s)
  | n + 1, e, s =>
    if e.isDue then
      let (e, s) := e.round rules fuel s
      readRounds rules fuel n e s
    else (e, s)

end Site

/-- Reads all text of a tree whose source has `size` characters, level by level. Every round reads
one level, and neither levels nor siblings are more than the characters give rise to. -/
def document (d : Dialect) (defs : Definitions) (size : Nat) (root : Element) (stash : Stash) :
    Except MarkupFault (Element × Stash) :=
  let fuel := 4 * size + 16
  let (site, s) :=
    (Site.ofElement root).mark.readRounds (rules d defs) fuel fuel { stash := stash }
  match s.fault with
  | some f => .error f
  | none => .ok (site.toElement, s.stash)

end MathPage.Markdown.Inline
