import MathPage.Document.Stash
import MathPage.Document.Element
import MathPage.Markdown.RawHtml.Token

/-!
# The extraction of raw HTML, step by step

* `State` – the text that is left, the open elements, the HTML gathered so far and the position;
* `State.single`, `State.comment`, `State.opened`, `State.closed` – what a piece of markup does.

A position is a line and a place in it. Where a line starts is looked up when somebody asks for it,
and remembered.
-/

namespace MathPage.Markdown.RawHtml

/-- How far the extraction has come. -/
structure State where
  stash : Stash
  /-- the pieces of the text that is left, the latest first -/
  left : List Text := []
  /-- the HTML gathered for the next entry -/
  gathered : Text := []
  /-- whether an element that began a line is open -/
  inside : Bool := false
  /-- whether the line began with HTML that is closed again -/
  behind : Bool := false
  /-- the tags of the open elements, the innermost first -/
  stack : List Text := []
  /-- the tags of the elements that were opened in the paragraph and left there, the innermost
  first -/
  inline : List Text := []
  /-- the text in which lines are looked up -/
  source : Text
  /-- the number of lines before this one -/
  line : Nat := 0
  /-- the position in the line -/
  column : Nat := 0
  /-- where lines start, the latest first, as far as it was looked up -/
  starts : List Nat := [0]

namespace State

/-! ### Positions -/

/-- The number of characters before the next line start. -/
def nextStart (t : Text) (start : Nat) : Nat :=
  match Text.cutAt? ['\n'] (t.drop start) with
  | some (a, _) => start + a.length + 1
  | none => t.length + 1

/-- Looks up further line starts. -/
def extend (t : Text) : Nat → List Nat → List Nat
  | 0, starts => starts
  | n + 1, starts => extend t n (nextStart t (starts.head?.getD 0) :: starts)

/-- Looks up where the line starts. -/
def locate (s : State) : State :=
  { s with starts := extend s.source (s.line + 1 - s.starts.length) s.starts }

/-- Where the line starts, as it was looked up. -/
def lineStart (s : State) : Nat := s.starts.head?.getD 0

/-- The text from the position on, as it was looked up. -/
def ahead (s : State) : Text := s.source.drop (s.lineStart + s.column)

/-- Whether the position is at the start of a line; up to three blanks may stand before it. -/
def atLineStart (s : State) : Bool × State :=
  if s.column = 0 then (true, s)
  else if 3 < s.column then (false, s)
  else
    let s := s.locate
    (Text.allBlank ((s.source.drop s.lineStart).take s.column), s)

/-- Moves the position behind a text. -/
def advance (s : State) (t : Text) : State :=
  let tail := (t.reverse.takeWhile (· != '\n')).reverse
  if tail.length = t.length then { s with column := s.column + t.length }
  else { s with line := s.line + t.count '\n', column := tail.length }

/-! ### Pieces -/

/-- Leaves a piece in the text. -/
def leave (s : State) (t : Text) : State := { s with left := t :: s.left }

/-- Gathers a piece of HTML. -/
def gather (s : State) (t : Text) : State := { s with gathered := s.gathered ++ t }

/-- Moves a piece into the stash and leaves its placeholder, which ends the paragraph. -/
def keep (s : State) (t : Text) : State :=
  let (placeholder, stash) := s.stash.store (.html t)
  { s with stash := stash, left := "\n\n".toList :: placeholder :: s.left, inline := [] }

/-- Whether two line ends follow, with nothing but spaces on the lines. -/
def blankFollows (rest : Text) : Bool :=
  match rest.dropWhile (· == ' ') with
  | '\n' :: t => (t.dropWhile (· == ' ')).head? == some '\n'
  | _ => false

/-- Whether a text holds a line end that a blank line follows. -/
def hasBlankLine : Text → Bool
  | [] => false
  | c :: t => (c == '\n' && blankFollows (c :: t)) || hasBlankLine t

/-- Text between markup. -/
def text (s : State) (t : Text) : State :=
  let s := if s.behind && t.contains '\n' then { s with behind := false } else s
  let s := if hasBlankLine t then { s with inline := [] } else s
  if s.inside then s.gather t else s.leave t

/-- Whether the latest piece ends in one line end only. -/
def endsLine (s : State) : Bool :=
  match s.left with
  | [] => false
  | t :: _ => Text.closes ['\n'] t && !Text.closes ['\n', '\n'] t

/-- A piece of HTML without content of its own, as it is written. -/
def single (s : State) (t : Text) (block : Bool) : State :=
  if s.inside || s.behind then s.gather t
  else
    let (start, s) := s.atLineStart
    if start && block then
      let s := s.locate
      let blank := blankFollows (s.ahead.drop t.length)
      let s := if s.endsLine then s.leave ['\n'] else s
      let s := if blank then s else { s with behind := true }
      s.keep (if blank then t ++ ['\n'] else t)
    else s.leave t

/-- A comment. Inside an element that was opened in the paragraph it belongs to the paragraph, unless
it holds a blank line. -/
def comment (s : State) (t : Text) : State :=
  s.single ("<!--".toList ++ t ++ "-->".toList) (s.inline.isEmpty || hasBlankLine t)

/-- Whether the content of an element is no markup. -/
def isOpaque (tag : Text) : Bool := tag == "script".toList || tag == "style".toList

/-- Whether an element without an end tag has no content. -/
def isVoid (tag : Text) : Bool :=
  isVoidTag tag || ["embed", "source", "track", "wbr"].any (·.toList == tag)

/-- A start tag, as it is written. -/
def opened (s : State) (tag t : Text) : State :=
  let block := isBlockTag tag
  let (start, s) := if block && !s.behind then s.atLineStart else (s.behind, s)
  let s := if block && start && !s.inside then { s with inside := true }.leave ['\n'] else s
  if s.inside then { s with stack := tag :: s.stack }.gather t
  else
    let s := if block || isVoid tag then s else { s with inline := tag :: s.inline }
    s.leave t

/-- The open elements when an element is closed; a tag that is not open closes nothing. -/
def closeTag (tag : Text) (stack : List Text) : List Text :=
  if stack.contains tag then (stack.dropWhile (· != tag)).drop 1 else stack

/-- An end tag. It is written as it is found at the position. -/
def closed (s : State) (tag : Text) : State :=
  let s := s.locate
  let t :=
    match Text.cutAt? ['>'] s.ahead with
    | some (a, _) => a ++ ['>']
    | none => "</".toList ++ tag ++ ['>']
  if s.inside then
    let s := { s with stack := closeTag tag s.stack }.gather t
    if s.stack.isEmpty then
      let s := if blankFollows (s.ahead.drop t.length) then s.gather ['\n']
        else { s with behind := true }
      { { s with inside := false }.keep s.gathered with gathered := [] }
    else s
  else { s with inline := closeTag tag s.inline }.leave t

/-- The end of the text: what was gathered is kept. -/
def finish (s : State) : State :=
  if s.gathered.isEmpty then s
  else
    let (placeholder, stash) := s.stash.store (.html s.gathered)
    { s with stash := stash, left := placeholder :: s.left, gathered := [] }

end State

end MathPage.Markdown.RawHtml
