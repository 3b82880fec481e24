import MathPage.Markdown.Block.Rule

/-!
# Tables

A block is a table if its first two lines are rows with the same number of cells and the second
holds nothing but hyphens, colons and spaces. Cells are divided by pipes; a pipe divides nothing if a
backslash stands before it or if it is inside a code span.

* `Row.cuts` – the positions of the dividing pipes of a row;
* `Row.cells` – the cells of a row;
* `table` – the rule.
-/

namespace MathPage.Markdown.Block

/-- Something in a row that decides where it is cut. -/
inductive Row.Sign where
  | pipe (place : Nat)
  /-- a run of marks of code; if it is `escaped`, its first mark is none when it opens code -/
  | ticks (count start stop : Nat) (escaped : Bool)

namespace Row

/-- The length of the run of marks of code that a text opens with. -/
def run (t : Text) : Nat := (t.takeWhile (· == Text.tick)).length

/-- The signs of a row from a position on. -/
def signs : Nat → Nat → Text → List Sign
  | 0, _, _ => []
  | _ + 1, _, [] => []
  | fuel + 1, i, c :: t =>
    if c = '\\' then
      match t with
      | [] => []
      | d :: t' =>
        let n := run t
        if 0 < n then .ticks n i (i + n) true :: signs fuel (i + 1 + n) (t.drop n)
        else if d = '\\' || d = '|' then signs fuel (i + 2) t'
        else signs fuel (i + 1) t
    else if c = Text.tick then
      let n := run (c :: t)
      .ticks n i (i + n - 1) false :: signs fuel (i + n) ((c :: t).drop n)
    else if c = '|' then .pipe i :: signs fuel (i + 1) t
    else signs fuel (i + 1) t

/-- The end of the run of `count` marks that comes first, with the signs behind it. -/
def closing? (count : Nat) : List Sign → Option (Nat × List Sign)
  | [] => none
  | .ticks n _ stop _ :: rest => if n = count then some (stop, rest) else closing? count rest
  | .pipe _ :: rest => closing? count rest

/-- The code spans among the signs, each with its first and last position. -/
def spans : Nat → List Sign → List (Nat × Nat)
  | 0, _ => []
  | _ + 1, [] => []
  | fuel + 1, .pipe _ :: rest => spans fuel rest
  | fuel + 1, .ticks n start _ escaped :: rest =>
    let count := if escaped then n - 1 else n
    match if count = 0 then none else closing? count rest with
    | some (stop, rest') => (start, stop) :: spans fuel rest'
    | none => spans fuel rest

/-- The positions of the pipes that divide cells. -/
def cuts (row : Text) : List Nat :=
  let ss := signs (row.length + 1) 0 row
  let inside := spans (ss.length + 1) ss
  ss.filterMap fun
    | .pipe i => if inside.any (fun (a, b) => a ≤ i && i ≤ b) then none else some i
    | .ticks .. => none

/-- Cuts a text at positions, dropping the characters there; `i` is the position of its start. -/
def cutAt (t : Text) (i : Nat) : List Nat → List Text
  | [] => [t]
  | p :: ps => t.take (p - i) :: cutAt (t.drop (p - i + 1)) (p + 1) ps

/-- A line without the spaces at its ends. -/
def trimmed (t : Text) : Text := Text.trim (· == ' ') t

/-- Whether a row ends in a pipe with an even number of backslashes before it. -/
def hasEndBorder (row : Text) : Bool :=
  match row.reverse with
  | '|' :: t => (t.takeWhile (· == '\\')).length % 2 == 0
  | _ => false

/-- The row without its backslashes and its pipe at the end, if it ends in a pipe. -/
def dropEndBorder (row : Text) : Text :=
  if hasEndBorder row then (row.reverse.drop 1).dropWhile (· == '\\') |>.reverse else row

/-- Whether a row has a pipe at one of its ends. -/
def hasBorder (row : Text) : Bool := Text.opens ['|'] row || hasEndBorder row

/-- The cells of a row; if the table has a border, pipes at the ends of the row are none. -/
def cells (border : Bool) (row : Text) : List Text :=
  let row :=
    if border then dropEndBorder ((Text.after? ['|'] row).getD row) else row
  cutAt row 0 (cuts row)

end Row

/-- The side that a cell of the second row chooses for its column. -/
def alignment? (cell : Text) : Option String :=
  let t := Row.trimmed cell
  if Text.opens [':'] t && Text.closes [':'] t then some "center"
  else if Text.opens [':'] t then some "left"
  else if Text.closes [':'] t then some "right"
  else none

/-- A cell with its side. -/
def tableCell (tag : String) (side : Option String) (t : Option Text) : Element :=
  { tag := tag.toList
    attributes := match side with
      | some s => [("style".toList, some ("text-align: ".toList ++ s.toList ++ [';']))]
      | none => []
    text := t }

/-- Gives each column its cell; cells that are missing are empty and those beyond are dropped. -/
def tableCells (tag : String) : List (Option String) → List Text → List Element
  | [], _ => []
  | s :: ss, [] => tableCell tag s (some []) :: tableCells tag ss []
  | s :: ss, t :: ts => tableCell tag s (some (Row.trimmed t)) :: tableCells tag ss ts

/-- The table of a block, if it is one. -/
def table? (block : Text) : Option Element :=
  match (Text.lines block).map Row.trimmed with
  | header :: second :: body =>
    let border := Row.hasBorder header
    let columns := Row.cells border header
    let marks := Row.cells border second
    let isTable :=
      1 < columns.length || (border && (second :: body).all Row.hasBorder)
    if isTable && marks.length == columns.length && marks.flatten.all "|:- ".toList.contains then
      let sides := marks.map alignment?
      let row := fun (tag : String) (line : Text) =>
        Element.node "tr" (tableCells tag sides (Row.cells border line))
      let rows :=
        if body.isEmpty then [Element.node "tr" (sides.map fun _ => tableCell "td" none none)]
        else body.map (row "td")
      some (.node "table" [.node "thead" [row "th" header], .node "tbody" rows])
    else none
  | _ => none

/-- Tables. -/
def table : Rule := fun _ _ parent block rest defs =>
  (table? block).map fun t => ⟨parent.push t, rest, defs⟩

end MathPage.Markdown.Block
