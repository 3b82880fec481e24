import MathPage.Markdown.Block.Prose
import MathPage.Markdown.Block.Table

/-!
# Documents

* `rules` – the rules of a dialect, in the order in which they are tried;
* `document` – the tree of a text, with what the text defines.
-/

namespace MathPage.Markdown.Block

/-- The rules of a dialect. -/
def rules : Dialect → List Rule
  | .plain =>
    [blank, continued .plain, code, hashHeading, underlined, rule, listOf true, listOf false,
      quoted, referred, paragraph]
  | .extended =>
    [blank, continued .plain, continued .definition, code, mathematics, table, hashHeading,
      underlined, rule, listOf true, listOf false, definitions, quoted, abbreviated, referred,
      paragraph]

/-- The tree of a text, and the definitions with what the text adds to them. Every step takes a
block, some characters of a block or, once for a block, its place in a list. -/
def document (d : Dialect) (t : Text) (defs : Definitions) : Element × Definitions :=
  parse (rules d) (4 * t.length + 16) .page (.node "div" []) (split t) defs

end MathPage.Markdown.Block
