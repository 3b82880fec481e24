import MathPage.Text.Class

/-!
# Quoted texts

How a message shows a text or bytes: between apostrophes, or between quotation marks if the text
holds an apostrophe and no quotation mark, with escapes for what has no glyph.
-/

namespace MathPage.Quoted

/-- The mark that encloses a text: the apostrophe, unless it occurs in the text and the quotation
mark does not. -/
def mark (t : Text) : Char :=
  if t.contains Text.apostrophe && !t.contains Text.quote then Text.quote else Text.apostrophe

/-- The escape that all quoted forms share, if the character has one. -/
def common? (m c : Char) : Option Text :=
  if c = '\\' ∨ c = m then some ['\\', c]
  else if c = '\n' then some ['\\', 'n']
  else if c = '\r' then some ['\\', 'r']
  else if c = '\t' then some ['\\', 't']
  else none

/-- A character inside the marks. -/
def encodeChar (m c : Char) : Text :=
  match common? m c with
  | some t => t
  | none =>
    if Text.isHidden c then
      let n := c.toNat
      if n < 0x100 then ['\\', 'x'] ++ Text.hex 2 n
      else if n < 0x10000 then ['\\', 'u'] ++ Text.hex 4 n
      else ['\\', 'U'] ++ Text.hex 8 n
    else [c]

/-- A text between its marks. -/
def text (t : Text) : Text :=
  let m := mark t
  m :: t.flatMap (encodeChar m) ++ [m]

/-- A byte inside the marks. -/
def encodeByte (m : Char) (b : UInt8) : Text :=
  let c := Char.ofNat b.toNat
  match common? m c with
  | some t => t
  | none =>
    if b.toNat < 32 ∨ 126 < b.toNat then ['\\', 'x'] ++ Text.hexByte b.toNat else [c]

/-- Bytes between their marks, behind a `b`. -/
def bytes (bs : List UInt8) : Text :=
  let m := mark (bs.map fun b => Char.ofNat b.toNat)
  'b' :: m :: bs.flatMap (encodeByte m) ++ [m]

end MathPage.Quoted
