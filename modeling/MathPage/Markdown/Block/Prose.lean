import MathPage.Markdown.Block.Items
import MathPage.Text.Pattern

/-!
# Quotes, paragraphs and definitions of names

* `quoted` – lines behind `>`; the block from the first of them on is a quote;
* `referred` – where a name in brackets leads;
* `abbreviated` – what an abbreviation means;
* `mathematics` – a block between dollar signs, brackets or the ends of an environment;
* `paragraph` – any other block.
-/

namespace MathPage.Markdown.Block

/-- What a line quotes. -/
def quoted? (line : Text) : Option Text :=
  match outdent line with
  | '>' :: ' ' :: t => some t
  | '>' :: t => some t
  | _ => none

/-- A line of a quote without the mark. -/
def unquote (line : Text) : Text :=
  if Text.strip line = ['>'] then [] else (quoted? line).getD line

/-- Quotes. -/
def quoted : Rule := fun parse mode parent block rest defs =>
  match findLine (fun l => (quoted? l).map fun _ => l) (Text.lines block) with
  | none => none
  | some (above, line, below) =>
    let (parent, defs) := parse mode parent [Text.unlines above] defs
    let inside := Text.unlines ((line :: below).map unquote)
    let inside := if above.isEmpty then inside else '\n' :: inside
    let parent :=
      if (lastOneOf? ["blockquote"] parent).isSome then parent
      else parent.push (.node "blockquote" [])
    let (parent, defs) := intoLast parse .quote parent (split inside) defs
    some ⟨parent, rest, defs⟩

/-- The blocks that are left when a match is taken out of a block. -/
def around (m : Match) (rest : List Text) : List Text :=
  let rest :=
    if Text.allBlank m.after then rest else Text.trimLeft (· == '\n') m.after :: rest
  if Text.allBlank m.before then rest else Text.trimRight (· == '\n') m.before :: rest

open Pattern in
/-- A name in brackets with the address and the title it stands for: the name is captured as 1, the
address as 2, the title as 5 or, in parentheses, as 6. -/
def reference : Pattern :=
  let spaces := star (char ' ')
  seqs [lineStart, between 0 3 (char ' '), char '[', .capture 1 (star (noneOf "[]")), str "]:",
    spaces, opt (char '\n'), spaces, .capture 2 (plus (.one fun c => !Text.isBlank c)), spaces,
    opt (.seq (char '\n') spaces),
    opt (.alt
      (seqs [.capture 4 (oneOf "\"'"), .capture 5 (star (other '\n')), .same 4, spaces])
      (seqs [char '(', .capture 6 (star (other '\n')), char ')', spaces])),
    lineEnd]

/-- Adds what a definition of a link target says. -/
def define (defs : Definitions) (m : Match) : Definitions :=
  let name := Text.lower (Text.strip (m.group 1))
  let address := Text.trimRight (· == '>') (Text.trimLeft (· == '<') (m.group 2))
  let title := if (m.group 5).isEmpty then m.group 6 else m.group 5
  defs.refer name ⟨address, if title.isEmpty then none else some title⟩

/-- Adds what the definitions at the start of a text say, and gives the text behind them; `fuel`
bounds their number. -/
def definesFuel : Nat → Definitions → Text → Definitions × Text
  | 0, defs, t => (defs, t)
  | fuel + 1, defs, t =>
    match reference.opening? (Text.trimLeft (· == '\n') t) with
    | some m => definesFuel fuel (define defs m) m.after
    | none => (defs, t)

/-- Definitions of link targets: the first one of a block and those that follow without another line
between them. -/
def referred : Rule := fun _ _ parent block rest defs =>
  (reference.find? block).map fun m =>
    let (defs, after) := definesFuel m.after.length (define defs m) m.after
    ⟨parent, around { m with after := after } rest, defs⟩

open Pattern in
/-- An abbreviation, captured as 1, and its meaning, captured as 2. -/
def abbreviation : Pattern :=
  let spaces := star (char ' ')
  seqs [lineStart, str "*[", .capture 1 (starLazy (other '\\')), char ']', opt (char ' '), char ':',
    spaces, opt (char '\n'), spaces, .capture 2 (star (other '\n')), lineEnd]

/-- Definitions of abbreviations; an empty meaning between quotation marks takes one back. -/
def abbreviated : Rule := fun _ _ parent block rest defs =>
  match abbreviation.find? block with
  | none => none
  | some m =>
    let short := Text.strip (m.group 1)
    let long := Text.strip (m.group 2)
    if short.isEmpty || long.isEmpty then none
    else
      let defs :=
        if long = "''".toList || long = "\"\"".toList then defs.forget short
        else defs.abbreviate short long
      some ⟨parent, around m rest, defs⟩

open Pattern in
/-- A character of a formula: a backslash comes with the character behind it. -/
def formulaChar : Pattern := .alt (.seq (char '\\') any) (other '\\')

open Pattern in
/-- A character of a formula that ends at a backslash and the given character. -/
def formulaCharBefore (c : Char) : Pattern := .alt (.seq (char '\\') (other c)) (other '\\')

open Pattern in
/-- A formula that fills a block, captured as 1. -/
def formulaBlock : Pattern :=
  let inside := plusLazy formulaChar
  let name := Pattern.seq (plus (.one fun c => 'a' ≤ c && c ≤ 'z')) (opt (char '*'))
  seqs [alts
      [seqs [str "$$", .capture 1 inside, str "$$"],
        seqs [str "\\[", .capture 1 (plusLazy (formulaCharBefore ']')), str "\\]"],
        .capture 1 (seqs [str "\\begin\x7b", .capture 2 name, str "\x7d", inside,
          str "\\end\x7b", .same 2, str "\x7d"])],
    star (char ' '), lastEnd]

/-- The element of a formula, between the marks that a page script looks for. -/
def formula (tag opening closing : String) (inside : Text) : Element :=
  { tag := tag.toList, attributes := [("class".toList, some "arithmatex".toList)]
    text := some (opening.toList ++ inside ++ closing.toList), literal := true }

/-- Formulas. -/
def mathematics : Rule := fun _ _ parent block rest defs =>
  (formulaBlock.opening? block).map fun m =>
    ⟨parent.push (formula "div" "\\[" "\\]" (m.group 1)), rest, defs⟩

/-- Adds a line to a text, or begins it; a text does not begin with blanks. -/
def continueText (o : Option Text) (line : Text) : Text :=
  match o with
  | none | some [] => Text.stripLeft line
  | some t => t ++ '\n' :: line

/-- Any block: a paragraph, or the text of a bare item. -/
def paragraph : Rule := fun _ mode parent block rest defs =>
  if Text.allBlank block then some ⟨parent, rest, defs⟩
  else if mode = .list then
    let parent :=
      if parent.children.isEmpty then
        { parent with text := some (continueText parent.text block) }
      else
        parent.updateLast fun c => { c with tail := some (c.tailD ++ '\n' :: block) }
    some ⟨parent, rest, defs⟩
  else some ⟨parent.push (Element.leaf "p" (Text.stripLeft block)), rest, defs⟩

end MathPage.Markdown.Block
