import MathPage.Action

/-!
# What a page shows

A page is a fixed frame around a converted text. A `View` holds what goes into the frame; everything
but the title and the links is trusted markup and is written as it is.

* `View.ofOptions` – the view of a converted text under given options;
* `View.ofValues` – the view of values of any kind;
* `Page.styles` – the style sheets of every page.
-/

namespace MathPage

/-- What goes into the frame of a page. -/
structure View where
  title : Text
  tests : Option Text := none
  benchmarks : Option Text := none
  source : Option Text := none
  head : List Text
  prepend : Option (List Text) := none
  append : Option (List Text) := none
  readme : Text
  deriving DecidableEq, Repr

/-- The style sheets of every page: a link and the rules of the frame itself. -/
def Page.styles : List Text :=
  [("<link rel=\"stylesheet\" href=\"https://cdn.jsdelivr.net/npm/github-markdown-css@5/" ++
      "github-markdown.min.css\">").toList,
    ("<style>\nbody \x7b\n    box-sizing: border-box;\n    min-width: 200px;\n" ++
      "    max-width: 980px;\n    margin: 0 auto;\n    padding: 45px;\n\x7d\n" ++
      "nav.readme-nav \x7b\n    margin-bottom: 20px;\n    font-size: 14px;\n\x7d\n" ++
      "nav.readme-nav a \x7b\n    margin-right: 12px;\n\x7d\n" ++
      "div.equation \x7b\n    margin: 16px 0;\n    overflow-x: auto;\n\x7d\n" ++
      "div.equation img \x7b\n    max-width: 100%;\n\x7d\n</style>").toList]

namespace View

/-- An option that is given and not empty. -/
def given? (o : Option Text) : Option Text := o.filter (!·.isEmpty)

/-- The view of a converted text under given options. -/
def ofOptions (o : Options) (html : Text) : View :=
  { title := o.title
    tests := o.tests
    benchmarks := o.benchmarks
    source := o.source
    head := Page.styles ++ (given? o.head).toList
    prepend := (given? o.prepend).map ([·])
    append := (given? o.append).map ([·])
    readme := html }

/-- The address of a link, if the value counts as present. -/
def optional (v : Value) : Option Text := if v.isTrue then some v.plain else none

/-- The pieces of markup that a value holds. -/
def items (v : Value) : Except Failure (List Text) :=
  match v.items? with
  | some vs => .ok (vs.map Value.plain)
  | none => .error (.notIterable v)

/-- The pieces of markup that a value holds, if it counts as present. -/
def optionalItems (v : Value) : Except Failure (Option (List Text)) :=
  if v.isTrue then (items v).map some else .ok none

/-- The view of values of any kind, each found by its name. What goes into the head must hold pieces
of markup, and so must what stands before and behind the converted text, if it is present. -/
def ofValues (value : String → Value) : Except Failure View := do
  let head ← items (value "head")
  let before ← optionalItems (value "prepend")
  let behind ← optionalItems (value "append")
  return {
    title := (value "title").plain
    tests := optional (value "tests")
    benchmarks := optional (value "benchmarks")
    source := optional (value "source")
    head := head
    prepend := before
    append := behind
    readme := (value "readme").plain }

end View

end MathPage
