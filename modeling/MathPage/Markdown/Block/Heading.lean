import MathPage.Markdown.Block.Indent

/-!
# Headings and rules

* `hashHeading` – a line that opens with one to six hash signs;
* `underlined` – a line with a line of equality signs or of hyphens below it;
* `rule` – a line of at least three hyphens, underscores or asterisks.

A heading with hash signs and a rule may stand anywhere in a block; the lines before it are read
first, the lines behind it later.
-/

namespace MathPage.Markdown.Block

/-- The first line for which `f` gives something, with the lines before and behind it. -/
def findLine {α : Type} (f : Text → Option α) : List Text → Option (List Text × α × List Text)
  | [] => none
  | l :: ls =>
    match f l with
    | some x => some ([], x, ls)
    | none => (findLine f ls).map fun (a, x, b) => (l :: a, x, b)

/-- The characters of a text, each backslash together with the character behind it. A backslash at
the end has none. -/
def escapes? : Text → Option (List Text)
  | [] => some []
  | ['\\'] => none
  | '\\' :: c :: t => (escapes? t).map (['\\', c] :: ·)
  | c :: t => (escapes? t).map ([c] :: ·)

/-- The level and the text of a heading line; hash signs at its end are dropped. -/
def hashLine? (line : Text) : Option (Nat × Text) :=
  let level := ((line.take 6).takeWhile (· == '#')).length
  if level = 0 then none
  else
    (escapes? (line.drop level)).map fun ts =>
      (level, Text.strip (ts.reverse.dropWhile (· == ['#'])).reverse.flatten)

/-- A heading. -/
def heading (level : Nat) (t : Text) : Element :=
  { tag := 'h' :: Text.decimal level, text := some t }

/-- Headings that open with hash signs. -/
def hashHeading : Rule := fun parse mode parent block rest defs =>
  match findLine hashLine? (Text.lines block) with
  | none => none
  | some (above, (level, t), below) =>
    let above := Text.unlines above
    let (parent, defs) :=
      if above.isEmpty then (parent, defs) else parse mode parent [above] defs
    let below := Text.unlines below
    let below := if mode = .looseList then looseDetab 1 below else below
    some ⟨parent.push (heading level t), before below rest, defs⟩

/-- The level that a line below a heading stands for: all its marks are of one kind. -/
def underline? (line : Text) : Option Nat :=
  match line with
  | [] => none
  | c :: _ =>
    if (line.dropWhile (· == c)).all (· == ' ') then
      if c = '=' then some 1 else if c = '-' then some 2 else none
    else none

/-- Headings with a line below them. -/
def underlined : Rule := fun _ _ parent block rest defs =>
  match Text.lines block with
  | t :: l :: below =>
    (underline? l).map fun level =>
      ⟨parent.push (heading level (Text.strip t)), before (Text.unlines below) rest, defs⟩
  | _ => none

/-- Whether a text is made of the mark and of spaces, never more than two of them between marks.
`gap` spaces have just been passed. -/
def isRuleOf (mark : Char) : Nat → Text → Bool
  | _, [] => true
  | gap, c :: t =>
    if c = mark then gap ≤ 2 && isRuleOf mark 0 t else c == ' ' && isRuleOf mark (gap + 1) t

/-- Whether a line is a rule. -/
def isRule (line : Text) : Bool :=
  let t := line.dropWhile (· == ' ')
  line.length - t.length ≤ 3 &&
    match t with
    | [] => false
    | c :: _ => "-_*".toList.contains c && 3 ≤ t.count c && isRuleOf c 0 t

/-- Rules. -/
def rule : Rule := fun parse mode parent block rest defs =>
  match findLine (fun l => if isRule l then some () else none) (Text.lines block) with
  | none => none
  | some (above, _, below) =>
    let above := Text.trimRight (· == '\n') (Text.unlines above)
    let (parent, defs) :=
      if above.isEmpty then (parent, defs) else parse mode parent [above] defs
    let below := Text.trimLeft (· == '\n') (Text.unlines below)
    some ⟨parent.push (.node "hr" []), before below rest, defs⟩

end MathPage.Markdown.Block
