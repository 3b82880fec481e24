import MathPage.Document.Element

/-!
# Trees as markup

* `Markup.ampersands` – what an ampersand is written as: an entity stays, any other ampersand
  becomes one;
* `Element.markup` – the markup of an element and of the text behind it. Attributes stand in the
  order of their names; elements without content close themselves.
-/

namespace MathPage.Markup

/-- Whether a text goes on, behind an ampersand, as an entity. -/
def isEntity (t : Text) : Bool :=
  let name := t.takeWhile (· != ';')
  (t.drop name.length).head? == some ';' &&
    match name with
    | '#' :: c :: ds =>
      (c :: ds).all Text.isDigit ||
        ((c == 'x' || c == 'X') && !ds.isEmpty &&
          ds.all fun d => Text.isDigit d || "abcdefABCDEF".toList.contains d)
    | ['#'] => false
    | [] => false
    | _ => name.all fun c => Text.isLetter c || Text.isDigit c

/-- Escapes the ampersands that begin no entity. -/
def ampersands : Text → Text
  | [] => []
  | '&' :: t => (if isEntity t then ['&'] else "&amp;".toList) ++ ampersands t
  | c :: t => c :: ampersands t

/-- Escapes the angle brackets. -/
def angles (t : Text) : Text :=
  t.flatMap fun c => if c = '<' then "&lt;".toList else if c = '>' then "&gt;".toList else [c]

/-- Text of an element. -/
def content (t : Text) : Text := angles (ampersands t)

/-- Value of an attribute. -/
def value (t : Text) : Text :=
  (content t).flatMap fun c => if c = Text.quote then "&quot;".toList else [c]

/-- An attribute with its value, or its name alone. -/
def field (a : Text × Option Text) : Text :=
  ' ' :: a.1 ++
    match a.2 with
    | some v => ['=', Text.quote] ++ value v ++ [Text.quote]
    | none => []

/-- Whether a text comes before another one, by the code points of the first characters that
differ. -/
def precedes : Text → Text → Bool
  | [], _ => true
  | _ :: _, [] => false
  | a :: t, b :: u => if a = b then precedes t u else a < b

/-- Puts an attribute in front of the first one whose name does not come before its own. -/
def insert (a : Text × Option Text) : List (Text × Option Text) → List (Text × Option Text)
  | [] => [a]
  | b :: bs => if precedes a.1 b.1 then a :: b :: bs else b :: insert a bs

/-- The attributes in the order of their names. -/
def sorted (attributes : List (Text × Option Text)) : List (Text × Option Text) :=
  attributes.foldr insert []

/-- The attributes of a start tag. -/
def fields (attributes : List (Text × Option Text)) : Text :=
  (sorted attributes).flatMap field

/-- A start tag up to its closing bracket. -/
def opened (tag : Text) (attributes : List (Text × Option Text)) : Text :=
  '<' :: tag ++ fields attributes

/-- Whether the text of an element is written as it is. -/
def isVerbatim (tag : Text) : Bool :=
  let t := Text.lower tag
  t == "script".toList || t == "style".toList

end MathPage.Markup

namespace MathPage.Element

mutual

/-- The markup of an element and of its tail. -/
def markup : Element → Text
  | ⟨tag, attributes, text, _, children, tail⟩ =>
    Markup.opened tag attributes ++
      (if isVoidTag tag then " />".toList
        else
          let t := text.getD []
          '>' :: (if Markup.isVerbatim tag then t else Markup.content t) ++ markups children ++
            "</".toList ++ tag ++ ['>']) ++
      Markup.content (tail.getD [])

/-- The markup of several elements. -/
def markups : List Element → Text
  | [] => []
  | e :: es => markup e ++ markups es

end

end MathPage.Element
