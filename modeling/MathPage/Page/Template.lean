import MathPage.Page.Render

/-!
# The template of a page

A template is a text with three kinds of things in it: fixed text, values to be put in, and tags
that leave something out or repeat it. A line feed behind a tag and blanks in front of it at the
start of a line are not written, and neither is the last line feed of the template. What is put in
is not read again.

* `Template.tokens` – cuts a template up;
* `Template.Code`, `Template.code?` – its tags matched with each other;
* `Template.Code.pieces`, `Template.pieces?` – what it gives for values of its names, with each
  value marked as one;
* `Page.template` – the template of every page.

What is read here is as much of templates as the page needs: anything else is refused.
-/

namespace MathPage

namespace Template

/-! ### Cutting a template up -/

/-- Fixed text, or the words between the marks of a value or of a tag. -/
inductive Token where
  | data (t : Text)
  | output (words : List Text)
  | tag (words : List Text)
  deriving DecidableEq, Repr

/-- What is being read. -/
inductive Mode where
  | data
  | output
  | tag
  deriving DecidableEq, Repr

/-- The words of a value or a tag. -/
def words (t : Text) : List Text := (Text.splitChar ' ' t).filter (!·.isEmpty)

/-- What stands behind the last line feed of a text. -/
def lastLine (t : Text) : Text := (t.reverse.takeWhile (· != '\n')).reverse

/-- Fixed text in front of a tag, without the blanks between the start of the line and the tag;
`atStart` says whether the text starts a line. -/
def dropIndent (atStart : Bool) (t : Text) : Text :=
  let last := lastLine t
  if Text.allBlank last && (atStart || last.length < t.length) then
    t.take (t.length - last.length)
  else t

/-- Fixed text and what follows it. -/
def withData (atStart : Bool) (t : Text) (ts : List Token) : List Token :=
  let t := match ts with
    | .tag _ :: _ => dropIndent atStart t
    | _ => t
  if t.isEmpty then ts else .data t :: ts

/-- Reads on to the end of the mode; the text up to there, and the tokens behind. -/
def read : Mode → Text → Option (Text × List Token)
  | .data, [] => some ([], [])
  | .data, ['\n'] => some ([], [])
  | .data, '\x7b' :: '#' :: _ => none
  | .data, '\x7b' :: '\x7b' :: t =>
    (read .output t).map fun (code, ts) => ([], .output (words code) :: ts)
  | .data, '\x7b' :: '%' :: t =>
    (read .tag t).map fun (code, ts) => ([], .tag (words code) :: ts)
  | .output, '\x7d' :: '\x7d' :: t => (read .data t).map fun (d, ts) => ([], withData false d ts)
  | .tag, '%' :: '\x7d' :: '\n' :: t => (read .data t).map fun (d, ts) => ([], withData true d ts)
  | .tag, '%' :: '\x7d' :: t => (read .data t).map fun (d, ts) => ([], withData false d ts)
  | mode, c :: t => (read mode t).map fun (d, ts) => (c :: d, ts)
  | _, [] => none

/-- The tokens of a template. -/
def tokens (t : Text) : Option (List Token) :=
  (read .data t).map fun (d, ts) => withData true d ts

/-! ### Matching tags -/

/-- What a tag or a value refers to: a name, no items, or the first of two that counts as
present. -/
inductive Expr where
  | name (n : Text)
  | noItems
  | either (a b : Expr)
  deriving DecidableEq, Repr

/-- A template: fixed text, values, parts that are left out unless something is present, and parts
that are repeated for each item of something, in their order. -/
inductive Code where
  | done
  | data (t : Text) (rest : Code)
  | output (e : Expr) (trusted : Bool) (rest : Code)
  | cond (e : Expr) (body rest : Code)
  | each (item : Text) (e : Expr) (body rest : Code)
  deriving DecidableEq, Repr

/-- The words that are no names. -/
def reserved : List Text :=
  ["or".toList, "and".toList, "not".toList, "in".toList, "is".toList, "if".toList, "else".toList,
    "for".toList, "true".toList, "True".toList, "false".toList, "False".toList, "none".toList,
    "None".toList]

/-- Whether a word is a name. -/
def isName (w : Text) : Bool :=
  w.all Text.isWord && (w.head?.any fun c => !Text.isDigit c) && !reserved.contains w

/-- A name, or a pair of brackets. -/
def atom? (w : Text) : Option Expr :=
  if w = "[]".toList then some .noItems else if isName w then some (.name w) else none

/-- Atoms with `or` between them. -/
def expr? : List Text → Option Expr
  | [w] => atom? w
  | w :: conj :: ws =>
    if conj = "or".toList then do return .either (← atom? w) (← expr? ws) else none
  | [] => none

/-- The two kinds of tags that have an end. -/
inductive Block where
  | cond
  | each
  deriving DecidableEq, Repr

/-- What stands behind a place of a template: to the end of its block, and behind the ends of the
blocks around it. -/
structure Behind where
  code : Code := .done
  outer : List (Block × Code) := []

/-- The place in front of a value. -/
def Behind.output? (s : Behind) (trusted : Bool) (w : Text) : Option Behind :=
  (atom? w).map fun e => { s with code := .output e trusted s.code }

/-- The place in front of a tag that opens a block. -/
def Behind.open? (s : Behind) : List Text → Option Behind
  | keyword :: ws =>
    match s.outer, ws with
    | (.cond, rest) :: outer, ws =>
      if keyword = "if".toList then (expr? ws).map fun e => ⟨.cond e s.code rest, outer⟩ else none
    | (.each, rest) :: outer, item :: conj :: ws =>
      if keyword = "for".toList ∧ isName item ∧ conj = "in".toList then
        (expr? ws).map fun e => ⟨.each item e s.code rest, outer⟩
      else none
    | _, _ => none
  | [] => none

/-- The place in front of a token. -/
def Behind.before (s : Behind) : Token → Option Behind
  | .data t => some { s with code := .data t s.code }
  | .output [w] => s.output? false w
  | .output [w, bar, filter] =>
    if bar = ['|'] ∧ filter = "safe".toList then s.output? true w else none
  | .output _ => none
  | .tag ws =>
    if ws = ["endif".toList] then some ⟨.done, (.cond, s.code) :: s.outer⟩
    else if ws = ["endfor".toList] then some ⟨.done, (.each, s.code) :: s.outer⟩
    else s.open? ws

/-- The place in front of several tokens. -/
def behind? : List Token → Option Behind
  | [] => some {}
  | t :: ts => (behind? ts).bind (·.before t)

/-- A template with its tags matched. -/
def code? (t : Text) : Option Code := do
  let s ← behind? (← tokens t)
  if s.outer.isEmpty then some s.code else none

/-! ### Filling a template -/

/-- A piece of what a template gives: fixed text, or a value, which is written in codes or as it
is. -/
inductive Piece where
  | data (t : Text)
  | escaped (t : Text)
  | verbatim (t : Text)
  deriving DecidableEq, Repr

/-- A piece as it is written. -/
def Piece.written : Piece → Text
  | .data t => t
  | .escaped t => Page.escape t
  | .verbatim t => t

/-- The fixed text of a piece; a value has none. -/
def Piece.fixed? : Piece → Option Text
  | .data t => some t
  | .escaped _ | .verbatim _ => none

/-- The values that names have. -/
abbrev Values := Text → Option Value

/-- The same values, but for one name. -/
def Values.set (values : Values) (n : Text) (v : Value) : Values := fun m =>
  if m = n then some v else values m

/-- What an expression refers to. -/
def Expr.value? (values : Values) : Expr → Option Value
  | .name n => values n
  | .noItems => some (.list [])
  | .either a b => (a.value? values).bind fun v => if v.isTrue then some v else b.value? values

/-- What a template gives, if all its names have values and what it goes through holds items. -/
def Code.pieces : Code → Values → Option (List Piece)
  | .done, _ => some []
  | .data t rest, values => (rest.pieces values).map (.data t :: ·)
  | .output e trusted rest, values => do
    let v ← e.value? values
    let behind ← rest.pieces values
    return (if trusted then .verbatim v.plain else .escaped v.plain) :: behind
  | .cond e body rest, values => do
    let v ← e.value? values
    let inner ← if v.isTrue then body.pieces values else some []
    let behind ← rest.pieces values
    return inner ++ behind
  | .each item e body rest, values => do
    let items ← (← e.value? values).items?
    let inner ← items.mapM fun v => body.pieces (values.set item v)
    let behind ← rest.pieces values
    return inner.flatten ++ behind

/-- The pieces of a filled template. -/
def pieces? (t : Text) (values : Values) : Option (List Piece) := (code? t).bind (·.pieces values)

end Template

namespace Page

/-- The lines of the template. Markup that is trusted is put in as it is. -/
def templateLines : List String :=
  ["<!DOCTYPE html>",
    "<html lang=\"en\">",
    "<head>",
    "<meta charset=\"utf-8\">",
    "<meta name=\"viewport\" content=\"width=device-width, initial-scale=1\">",
    "<title>\x7b\x7b title \x7d\x7d</title>",
    "\x7b% for item in head %\x7d",
    "\x7b\x7b item | safe \x7d\x7d",
    "\x7b% endfor %\x7d",
    "</head>",
    "<body>",
    "\x7b% if tests or benchmarks or source %\x7d",
    "<nav class=\"readme-nav\">",
    "\x7b% if tests %\x7d<a href=\"\x7b\x7b tests \x7d\x7d\">Tests</a>\x7b% endif %\x7d",
    "\x7b% if benchmarks %\x7d<a href=\"\x7b\x7b benchmarks \x7d\x7d\">Benchmarks</a>\x7b% endif %\x7d",
    "\x7b% if source %\x7d<a href=\"\x7b\x7b source \x7d\x7d\">Source</a>\x7b% endif %\x7d",
    "</nav>",
    "\x7b% endif %\x7d",
    "\x7b% for item in prepend or [] %\x7d",
    "\x7b\x7b item | safe \x7d\x7d",
    "\x7b% endfor %\x7d",
    "<article class=\"markdown-body readme\">",
    "\x7b\x7b readme | safe \x7d\x7d",
    "</article>",
    "\x7b% for item in append or [] %\x7d",
    "\x7b\x7b item | safe \x7d\x7d",
    "\x7b% endfor %\x7d",
    "</body>",
    "</html>"]

/-- The template of every page. -/
def template : Text := block (templateLines.map String.toList)

/-- What a view has for the names of the template. -/
def fields (v : View) : List (String × Value) :=
  [("title", .text v.title), ("tests", v.tests.elim .none .text),
    ("benchmarks", v.benchmarks.elim .none .text), ("source", v.source.elim .none .text),
    ("head", .list (v.head.map .text)),
    ("prepend", v.prepend.elim .none fun ts => .list (ts.map .text)),
    ("append", v.append.elim .none fun ts => .list (ts.map .text)), ("readme", .text v.readme)]

/-- The values of the names of the template. -/
def values (v : View) : Template.Values := fun n =>
  ((fields v).find? (·.1.toList == n)).map (·.2)

end Page

end MathPage
