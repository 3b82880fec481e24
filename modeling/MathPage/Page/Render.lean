import MathPage.Page.View

/-!
# The page around a converted text

* `Page.escape` – text without the characters of markup;
* `Page.navigation` – the block of links, present if there is a link;
* `Page.text` – the page of a view;
* `Page.render` – the same, with its two log messages.
-/

namespace MathPage.Page

/-- A character of a title or an address. -/
def escapeChar (c : Char) : Text :=
  if c = '&' then "&amp;".toList
  else if c = '<' then "&lt;".toList
  else if c = '>' then "&gt;".toList
  else if c = Text.apostrophe then "&#39;".toList
  else if c = Text.quote then "&#34;".toList
  else [c]

/-- A text without the characters of markup. -/
def escape (t : Text) : Text := t.flatMap escapeChar

/-- Pieces of markup, each on a line of its own. -/
def block (ts : List Text) : Text := ts.flatMap (· ++ ['\n'])

/-- A link, if its address is given and not empty. -/
def link (name : String) (address : Option Text) : Text :=
  match View.given? address with
  | some t => "<a href=\"".toList ++ escape t ++ "\">".toList ++ name.toList ++ "</a>".toList
  | none => []

/-- Whether one of the links is given. -/
def hasLinks (v : View) : Bool :=
  (View.given? v.tests).isSome || (View.given? v.benchmarks).isSome ||
    (View.given? v.source).isSome

/-- The block of links. -/
def navigation (v : View) : Text :=
  if hasLinks v then
    "<nav class=\"readme-nav\">\n".toList ++ link "Tests" v.tests ++
      link "Benchmarks" v.benchmarks ++ link "Source" v.source ++ "</nav>\n".toList
  else []

/-- What stands before the title. -/
def beforeTitle : Text :=
  ("<!DOCTYPE html>\n<html lang=\"en\">\n<head>\n<meta charset=\"utf-8\">\n" ++
    "<meta name=\"viewport\" content=\"width=device-width, initial-scale=1\">\n<title>").toList

/-- The page of a view. -/
def text (v : View) : Text :=
  beforeTitle ++ escape v.title ++ "</title>\n".toList ++ block v.head ++
    "</head>\n<body>\n".toList ++ navigation v ++ block (v.prepend.getD []) ++
    "<article class=\"markdown-body readme\">\n".toList ++ v.readme ++ "\n</article>\n".toList ++
    block (v.append.getD []) ++ "</body>\n</html>".toList

/-- The page of a view, with a message before and one after. -/
def render {ω : Type} (h : Host ω) (v : View) : Action ω Text := do
  h.log .debug "Rendering...".toList
  let page := text v
  h.log .debug "Finished rendering.".toList
  return page

end MathPage.Page
