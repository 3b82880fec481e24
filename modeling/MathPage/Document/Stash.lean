import MathPage.Document.Element

/-!
# The stash of raw HTML

Raw HTML is taken out of a document while it is converted. A stash keeps the pieces in the order in
which they come; in the document each is stood for by a placeholder that names its position.

* `Stash.store` – keeps a piece at the end and gives its placeholder;
* `Stash.placeholder`, `Stash.index?` – writing and reading placeholders; `Stash.numeralLimit`, the
  length up to which a numeral is read everywhere;
* `Stash.value?` – the HTML that an element stands for: it must be a paragraph without children that
  holds nothing but a placeholder.
-/

namespace MathPage

/-- A piece that was taken out of a document. -/
inductive Stash.Entry where
  | html (t : Text)
  /-- what a renderer left empty -/
  | nothing
  | element (tag : Text)
  deriving DecidableEq, Repr

/-- The pieces in the order in which they came. -/
structure Stash where
  entries : List Stash.Entry := []
  deriving DecidableEq, Repr

namespace Stash

/-- The control character that opens a placeholder. -/
def opening : Char := '\x02'

/-- The control character that closes a placeholder. -/
def closing : Char := '\x03'

/-- What a placeholder opens with. -/
def head : Text := opening :: "wzxhzdk:".toList

/-- The placeholder for the piece at a position. -/
def placeholder (n : Nat) : Text := head ++ Text.decimal n ++ [closing]

/-- The greatest number of digits, zeros in front included, of a numeral that can be taken for granted
to be read. A longer one is refused where the conversion of numerals is limited; `index?` reads
numerals of any length. -/
def numeralLimit : Nat := 4300

/-- The position that a text names, if it is a placeholder. -/
def index? (t : Text) : Option Nat :=
  match Text.after? head t with
  | none => none
  | some rest =>
    match rest.reverse with
    | c :: ds => if c = closing then Text.ofDecimal? ds.reverse else none
    | [] => none

/-- Keeps a piece at the end. -/
def store (s : Stash) (e : Entry) : Text × Stash :=
  (placeholder s.entries.length, ⟨s.entries ++ [e]⟩)

/-- The HTML of an entry. -/
def Entry.html? : Entry → Option Text
  | .html t => some t
  | _ => none

/-- The HTML that a text stands for, if it is a placeholder between blanks. -/
def valueOf? (s : Stash) (t : Text) : Option Text :=
  (index? (Text.strip t)).bind fun n => s.entries[n]?.bind Entry.html?

/-- The HTML that an element stands for. -/
def value? (s : Stash) (e : Element) : Option Text :=
  if e.hasTag "p" && e.children.isEmpty then e.text.bind s.valueOf? else none

end Stash

end MathPage
