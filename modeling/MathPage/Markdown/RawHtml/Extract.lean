import MathPage.Markdown.RawHtml.State

/-!
# Raw HTML blocks

HTML that begins a line is not Markdown. An element on lines of its own is moved into the stash from
its start tag to its end tag, whatever it holds; a comment or a declaration is moved as it is. What
follows on the same line belongs to the document again, except for further HTML.

* `RawHtml.pass` – reads a text up to markup that never ends or, in the last pass, up to its end;
* `RawHtml.extract` – moves all raw HTML of a text into the stash.
-/

namespace MathPage.Markdown.RawHtml

open Pattern in
/-- The end tag of an element whose content is no markup. -/
def opaqueEnd (tag : Text) : Pattern :=
  seqs [str "</", seqs (tag.map fun c => .one fun d => Text.lowerChar d == c), star blank, char '>']

/-- The length of markup that never ends: it is text through the next bracket that closes or, failing
that, up to the next that opens. -/
def endlessLength (t : Text) : Nat :=
  match Text.cutAt? ['>'] t with
  | some (a, _) => a.length + 1
  | none =>
    match Text.cutAt? ['<'] (t.drop 1) with
    | some (a, _) => a.length + 1
    | none => 1

/-- Reads a text; gives what is left of it. A pass that is not the last stops at markup that never
ends; any pass stops at a number sign that begins no entity. Every round uses up a character. -/
def pass (last : Bool) : Nat → State → Text → State × Text
  | 0, s, t => (s, t)
  | _ + 1, s, [] => (s, [])
  | fuel + 1, s, c :: t =>
    if c != '<' && c != '&' then
      let data := (c :: t).takeWhile fun c => c != '<' && c != '&'
      pass last fuel ((s.text data).advance data) ((c :: t).drop data.length)
    else
      let (start, s) :=
        if maybeDeclaration (c :: t) && !s.behind then s.atLineStart else (s.behind, s)
      let (n, tok) := token start (c :: t)
      let written := (c :: t).take n
      let rest := (c :: t).drop n
      match tok with
      | .text => pass last fuel ((s.text written).advance written) rest
      | .single u block => pass last fuel ((s.single u block).advance written) rest
      | .comment u => pass last fuel ((s.comment u).advance written) rest
      | .closed tag => pass last fuel ((s.closed tag).advance written) rest
      | .endless =>
        if last then
          let data := (c :: t).take (endlessLength (c :: t))
          pass last fuel ((s.text data).advance data) ((c :: t).drop data.length)
        else (s, c :: t)
      | .stray =>
        if rest.contains ';' then ((s.text written).advance written, rest) else (s, c :: t)
      | .opened tag =>
        let s := (s.opened tag written).advance written
        if s.inside && State.isOpaque tag then
          match (opaqueEnd tag).find? rest with
          | some m =>
            let s := if m.before.isEmpty then s else (s.text m.before).advance m.before
            pass last fuel s (m.text ++ m.after)
          | none => (s.text rest, [])
        else pass last fuel s rest

/-- Moves all raw HTML of a text into the stash. What the first pass leaves is read as a text of its
own, at the position that was reached; what is left then is text. -/
def extract (t : Text) (s : Stash) : Text × Stash :=
  let (s, rest) := pass false (t.length + 1) { stash := s, source := t } t
  let (s, rest) := pass true (rest.length + 1) { s with source := rest } rest
  let s := (if rest.isEmpty then s else s.text rest).finish
  (s.left.reverse.flatten, s.stash)

end MathPage.Markdown.RawHtml
