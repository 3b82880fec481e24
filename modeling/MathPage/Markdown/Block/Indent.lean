import MathPage.Markdown.Block.Rule

/-!
# Indented blocks

Four spaces make a level of indentation. Behind a list they continue its last item; anywhere else
they are code.

* `detab`, `looseDetab` – taking indentation off;
* `code` – indented code; blocks of code that follow each other are one;
* `blank` – empty lines, which count only inside code;
* `continued` – indented blocks that belong to an item.
-/

namespace MathPage.Markdown.Block

/-- A level of indentation. -/
def tab : Text := "    ".toList

/-- Takes one level off the lines that have it, up to the first line that is neither indented nor
blank; the lines from there on are left. -/
def detabLines : List Text → List Text × List Text
  | [] => ([], [])
  | l :: ls =>
    match Text.after? tab l with
    | some t => let (a, b) := detabLines ls; (t :: a, b)
    | none =>
      if Text.allBlank l then let (a, b) := detabLines ls; ([] :: a, b)
      else ([], l :: ls)

/-- Takes one level off the leading indented lines; the text from the first other line on is
left. -/
def detab (t : Text) : Text × Text :=
  let (a, b) := detabLines (Text.lines t)
  (Text.unlines a, Text.unlines b)

/-- Takes levels off each line that has them all. -/
def looseDetab (levels : Nat) (t : Text) : Text :=
  let space := List.replicate (4 * levels) ' '
  Text.unlines ((Text.lines t).map fun l => (Text.after? space l).getD l)

/-- A character of code. -/
def escapeChar : Char → Text
  | '&' => "&amp;".toList
  | '<' => "&lt;".toList
  | '>' => "&gt;".toList
  | c => [c]

/-- Code without the characters of markup. -/
def escape (t : Text) : Text := t.flatMap escapeChar

/-- Whether an element is a block of code. -/
def isCode (e : Element) : Bool := e.hasTag "pre" && e.children.head?.any (·.hasTag "code")

/-- Adds to the text of a block of code. -/
def extendCode (t : Text) (e : Element) : Element :=
  match e.children with
  | c :: cs => { e with children := { c with text := some (c.textD ++ t), literal := true } :: cs }
  | [] => e

/-- Adds to the code at the end of an element, if there is code at its end. -/
def extendLastCode (t : Text) (parent : Element) : Element :=
  if parent.last?.any isCode then parent.updateLast (extendCode t) else parent

/-- A block of code. -/
def newCode (t : Text) : Element :=
  .node "pre" [{ tag := "code".toList, text := some t, literal := true }]

/-- Empty lines at the start of a block, and empty blocks. -/
def blank : Rule := fun _ _ parent block rest defs =>
  match block with
  | [] => some ⟨extendLastCode "\n\n".toList parent, rest, defs⟩
  | '\n' :: t => some ⟨extendLastCode ['\n'] parent, before t rest, defs⟩
  | _ => none

/-- Indented code. -/
def code : Rule := fun _ _ parent block rest defs =>
  if Text.opens tab block then
    let (inside, outside) := detab block
    let text := escape (Text.stripRight inside) ++ ['\n']
    let parent :=
      if parent.last?.any isCode then parent.updateLast (extendCode ('\n' :: text))
      else parent.push (newCode text)
    some ⟨parent, before outside rest, defs⟩
  else none

/-- Kinds of lists by the tags of their items and of the lists that may stand in these, and the
tag of a new item. -/
structure Family where
  items : List String
  lists : List String
  item : String

/-- Lists with bullets or numbers. -/
def Family.plain : Family := ⟨["li"], ["ul", "ol"], "li"⟩

/-- Definition lists, whose definitions may hold any list. -/
def Family.definition : Family := ⟨["dd", "li"], ["dl", "ol", "ul"], "dd"⟩

/-- The way down the last children of an element to the list or item that an indentation of
`depth` levels belongs to, as a number of steps, and the level reached there. -/
def Family.reach (f : Family) (depth : Nat) : Nat → Nat → Element → Nat × Nat
  | 0, level, _ => (0, level)
  | fuel + 1, level, e =>
    if level < depth then
      match lastOneOf? (f.lists ++ f.items) e with
      | none => (0, level)
      | some c =>
        let (steps, reached) :=
          f.reach depth fuel (if isOneOf f.lists c then level + 1 else level) c
        (steps + 1, reached)
    else (0, level)

/-- The element that a number of steps down the last children lead to. -/
def lastAt : Nat → Element → Element
  | 0, e => e
  | n + 1, e =>
    match e.last? with
    | some c => lastAt n c
    | none => e

/-- Puts an element where a number of steps down the last children lead to. -/
def replaceLastAt (new : Element) : Nat → Element → Element
  | 0, _ => new
  | n + 1, e => e.updateLast (replaceLastAt new n)

/-- Reads an indented block into a list, into its last item or into an item. -/
def Family.enter (f : Family) (parse : Parse) (place : Element) (block : Text)
    (defs : Definitions) : Element × Definitions :=
  if isOneOf f.items place then parse .detabbed place [block] defs
  else if (lastOneOf? f.items place).isSome then
    intoLast parse .detabbed (place.updateLast wrapText) (split block) defs
  else child parse .detabbed place f.item block defs

/-- Indented blocks that continue an item of a list. -/
def continued (f : Family) : Rule := fun parse mode parent block rest defs =>
  if Text.opens tab block && mode != .detabbed &&
      (isOneOf f.items parent || (lastOneOf? f.lists parent).isSome) then
    let depth := (block.takeWhile (· == ' ')).length / 4
    let (steps, level) :=
      f.reach depth (block.length + 1) (if mode = .list then 1 else 0) parent
    let block := looseDetab level block
    if isOneOf f.items parent then
      let (parent, defs) :=
        if (lastOneOf? f.lists parent).isSome then
          intoLast parse .detabbed parent [block] defs
        else parse .detabbed parent [block] defs
      some ⟨parent, rest, defs⟩
    else
      let (place, defs) := f.enter parse (lastAt steps parent) block defs
      some ⟨replaceLastAt place steps parent, rest, defs⟩
  else none

end MathPage.Markdown.Block
