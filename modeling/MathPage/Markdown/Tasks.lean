import MathPage.Document.Stash
import MathPage.Document.Element
import MathPage.Text.Pattern

/-!
# Task lists

An item that opens with a box, `[ ]` or `[x]`, shows a checkbox in its place. The item and its list
are marked by classes.

* `Tasks.box?` – the box that a text opens with;
* `Tasks.mark` – puts checkboxes into a tree.
-/

namespace MathPage.Markdown.Tasks

/-- Whether the box that a text opens with is checked, and the text behind it. -/
def box? (t : Text) : Option (Bool × Text) :=
  match t.dropWhile (· == ' ') with
  | '[' :: c :: ']' :: ' ' :: rest =>
    if c = ' ' then some (false, rest.dropWhile (· == ' '))
    else if c = 'x' || c = 'X' then some (true, rest.dropWhile (· == ' '))
    else none
  | _ => none

/-- The HTML of a checkbox, with the space behind it. -/
def checkbox (checked : Bool) : Text :=
  "<input type=\"checkbox\" disabled".toList ++ (if checked then " checked".toList else []) ++
    "/> ".toList

/-- Adds a class to an element, unless it is `once` and there already. -/
def addClass (once : Bool) (name : Text) (e : Element) : Element :=
  let classes := (Text.splitChar ' ' ((e.get? "class".toList).getD [])).filter (!·.isEmpty)
  if once && classes.contains name then e
  else e.set "class".toList (Text.join [' '] (classes ++ [name]))

/-- Puts a checkbox at the start of the text of an element, if the text opens with a box. -/
def check? (e : Element) (s : Stash) : Option (Element × Stash) :=
  (box? e.textD).map fun (checked, rest) =>
    let (placeholder, s) := s.store (.html (checkbox checked))
    ({ e with text := some (placeholder ++ rest) }, s)

/-- Puts a checkbox into an item whose text, or whose first paragraph, opens with a box. -/
def item? (e : Element) (s : Stash) : Option (Element × Stash) :=
  let found :=
    if e.textD.isEmpty then
      match e.children with
      | c :: cs =>
        if c.hasTag "p" then (check? c s).map fun (c, s) => ({ e with children := c :: cs }, s)
        else none
      | [] => none
    else check? e s
  found.map fun (e, s) => (addClass false "task-list-item".toList e, s)

/-- Puts checkboxes into the items among several elements; says whether there are any. -/
def items : List Element → Stash → (List Element × Bool) × Stash
  | [], s => (([], false), s)
  | e :: es, s =>
    match if e.hasTag "li" then item? e s else none with
    | some (e, s) =>
      let ((es, _), s) := items es s
      ((e :: es, true), s)
    | none =>
      let ((es, any), s) := items es s
      ((e :: es, any), s)

/-- Puts checkboxes into the items of an element. -/
def list (e : Element) : StateM Stash Element := fun s =>
  let ((children, any), s) := items e.children s
  let e := { e with children := children }
  (if any then addClass true "task-list".toList e else e, s)

/-- Puts checkboxes into a tree. -/
def mark (root : Element) (s : Stash) : Element × Stash := root.alterM list s

end MathPage.Markdown.Tasks
