import MathPage.Text.Class

/-!
# Dialects and definitions

* `Dialect` – how much of the markup a converter knows;
* `Definitions` – what some blocks define for the whole document: the targets of links and the
  meanings of abbreviations.
-/

namespace MathPage.Markdown

/-- How much of the markup a converter knows. -/
inductive Dialect where
  /-- headings, lists, quotes, code, links, emphasis and raw HTML -/
  | plain
  /-- also tables, fences, attribute lists, definition lists, abbreviations, tables of contents,
  mathematics, task lists, and inserted, deleted, marked, raised and lowered text -/
  | extended
  deriving DecidableEq, Repr

/-- Where a link leads, with a title if one is given. -/
structure Target where
  address : Text
  title : Option Text := none
  deriving DecidableEq, Repr

/-- What blocks define for the whole document. -/
structure Definitions where
  references : List (Text × Target) := []
  abbreviations : List (Text × Text) := []
  deriving DecidableEq, Repr

namespace Definitions

/-- Defines the target of a name, in place of an earlier one. -/
def refer (d : Definitions) (name : Text) (t : Target) : Definitions :=
  { d with references := (name, t) :: d.references.filter (·.1 != name) }

/-- The target of a name. -/
def target? (d : Definitions) (name : Text) : Option Target :=
  (d.references.find? (·.1 == name)).map (·.2)

/-- Defines the meaning of an abbreviation, in place of an earlier one. -/
def abbreviate (d : Definitions) (short long : Text) : Definitions :=
  { d with abbreviations := (short, long) :: d.abbreviations.filter (·.1 != short) }

/-- Forgets an abbreviation. -/
def forget (d : Definitions) (short : Text) : Definitions :=
  { d with abbreviations := d.abbreviations.filter (·.1 != short) }

/-- The meaning of an abbreviation. -/
def meaning? (d : Definitions) (short : Text) : Option Text :=
  (d.abbreviations.find? (·.1 == short)).map (·.2)

end Definitions

end MathPage.Markdown
