import MathPage.Markdown.Block.Heading

/-!
# Lists

A line that opens with a bullet, or with a number and a dot, begins an item; lists of both kinds
continue each other. A list whose items stand in one block has bare items; an item that comes behind
an empty line holds paragraphs, and so does the one before it.

* `marker?` – the mark that begins an item;
* `items` – the lines of a block, gathered by the items they belong to;
* `listOf` – the rule for lists;
* `definitions` – terms with their definitions below, each behind a colon.
-/

namespace MathPage.Markdown.Block

/-- Up to three spaces are no indentation. -/
def outdent (line : Text) : Text := line.drop ((line.take 3).takeWhile (· == ' ')).length

/-- The mark that a line opens with: whether it is a number, and what is behind it. -/
def marker? (line : Text) : Option (Bool × Text) :=
  match line with
  | [] => none
  | c :: t =>
    if "*+-".toList.contains c then some (false, t)
    else
      match line.dropWhile Text.isNumeral with
      | '.' :: t => if Text.isNumeral c then some (true, t) else none
      | _ => none

/-- The kind and the first line of the item that a line begins; the mark needs a space behind it. -/
def item? (line : Text) : Option (Bool × Text) :=
  match marker? (outdent line) with
  | some (numbered, ' ' :: t) => some (numbered, t.dropWhile (· == ' '))
  | _ => none

/-- Whether a line begins an item that is indented by one level. -/
def isNestedItem (line : Text) : Bool :=
  match Text.after? tab line with
  | some t => (item? t).isSome
  | none => false

/-- Adds a line to the items before it, of which the latest comes first. -/
def addLine (its : List Text) (line : Text) : List Text :=
  match item? line, its with
  | some (_, t), _ => t :: its
  | none, [] => [line]
  | none, latest :: earlier =>
    if isNestedItem line && !Text.opens tab latest then line :: its
    else (latest ++ '\n' :: line) :: earlier

/-- The items of a block. Nested items that follow each other are one indented item. -/
def items (block : Text) : List Text := ((Text.lines block).foldl addLine []).reverse

/-- Reads the items of a block into a list. -/
def readItems (parse : Parse) : List Text → Element → Definitions → Element × Definitions
  | [], e, defs => (e, defs)
  | i :: is, e, defs =>
    let (e, defs) :=
      if Text.opens tab i then intoLast parse .list e [i] defs else child parse .list e "li" i defs
    readItems parse is e defs

/-- The last item before an empty line: its text, and what follows its last child, are
paragraphs. -/
def loosen (e : Element) : Element :=
  let e := wrapText e
  match e.last? with
  | none => e
  | some c =>
    if c.tailD.isEmpty then e
    else
      (e.updateLast fun c => { c with tail := some [] }).push
        (Element.leaf "p" (Text.stripLeft c.tailD))

/-- The tags of lists with bullets or numbers. -/
def listTags : List String := ["ol", "ul"]

/-- Lists with numbers, or with bullets. -/
def listOf (numbered : Bool) : Rule := fun parse _ parent block rest defs =>
  match item? ((Text.lines block).headD []) with
  | some (kind, _) =>
    if kind != numbered then none
    else
      let its := items block
      if (lastOneOf? listTags parent).isSome then
        let parent := parent.updateLast (·.updateLast loosen)
        match parent.last?, its with
        | some list, i :: is =>
          let (list, defs) := child parse .looseList list "li" i defs
          let (list, defs) := readItems parse is list defs
          some ⟨parent.updateLast fun _ => list, rest, defs⟩
        | _, _ => some ⟨parent, rest, defs⟩
      else if isOneOf listTags parent then
        let (parent, defs) := readItems parse its parent defs
        some ⟨parent, rest, defs⟩
      else
        let (list, defs) :=
          readItems parse its (.node (if numbered then "ol" else "ul") []) defs
        some ⟨parent.push list, rest, defs⟩
  | none => none

/-- What a line behind a colon defines; up to three spaces behind the colon are dropped. -/
def definition? (line : Text) : Option Text :=
  match outdent line with
  | ':' :: ' ' :: t => some (t.drop ((t.take 2).takeWhile (· == ' ')).length)
  | _ => none

/-- Whether a text opens a line that is neither indented nor a definition. -/
def isUnindented (t : Text) : Bool :=
  match outdent t with
  | c :: _ => c != ' ' && c != ':'
  | [] => false

/-- The lines of a definition and what is left behind it. -/
def definitionBody (line below : Text) : Text × Text :=
  let (inside, outside) := if isUnindented below then (below, []) else detab below
  (if inside.isEmpty then line else line ++ '\n' :: inside, outside)

/-- The terms of a definition: the lines above it or, if there are none, those of the paragraph
before, which is taken out. Nothing if neither is there. -/
def terms? (parent : Element) (above : List Text) : Option (Mode × List Text × Element) :=
  let terms := (above.map Text.strip).filter (!·.isEmpty)
  if !terms.isEmpty then some (.list, terms, parent)
  else
    match parent.last? with
    | none => none
    | some c =>
      if c.hasTag "p" then
        some (.looseList, Text.lines c.textD, { parent with children := parent.children.dropLast })
      else some (.list, [], parent)

/-- Definition lists. -/
def definitions : Rule := fun parse _ parent block rest defs =>
  match findLine definition? (Text.lines block) with
  | none => none
  | some (above, line, below) =>
    match terms? parent above with
    | none => none
    | some (mode, terms, parent) =>
      let (body, outside) := definitionBody line (Text.unlines below)
      let open? := lastOneOf? ["dl"] parent
      let follows := open?.any fun dl =>
        terms.isEmpty && (lastOneOf? ["dd"] dl).any (!·.children.isEmpty)
      let mode := if follows then .looseList else mode
      let parent := if open?.isSome then parent else parent.push (.node "dl" [])
      match parent.last? with
      | none => none
      | some dl =>
        let dl := { dl with children := dl.children ++ terms.map (Element.leaf "dt") }
        let (dl, defs) := child parse mode dl "dd" body defs
        some ⟨parent.updateLast fun _ => dl, before outside rest, defs⟩

end MathPage.Markdown.Block
