import MathPage.Failure
import MathPage.Document.Restore
import MathPage.Document.Markup
import MathPage.Document.Element
import MathPage.Markdown.Inline.Nodes
import MathPage.Markdown.Layout
import MathPage.Text.Entity

/-!
# Identifiers of headings and the table of contents

Every heading has an identifier, which is made of its words unless it has one already, and a
paragraph that holds nothing but `[TOC]` gives way to a table of all headings.

* `Contents.slug` – words as an identifier;
* `Contents.unique` – an identifier that is not yet used;
* `Contents.Heading`, `Contents.nest` – the headings of a document, one below the other;
* `Contents.build` – identifiers and tables of contents for a tree.
-/

namespace MathPage.Markdown.Contents

/-! ### Words -/

/-- Text without comments; `fuel` bounds their number. -/
def dropComments : Nat → Text → Text
  | 0, t => t
  | fuel + 1, t =>
    match Text.cutAt? "<!--".toList t with
    | none => t
    | some (a, rest) =>
      match Text.cutAt? "-->".toList rest with
      | none => t
      | some (_, b) => a ++ dropComments fuel b

/-- Whether an angle bracket opens a tag, by what is behind it. -/
def opensTag (t : Text) : Bool := t.head?.any fun c => Text.isLetter c || "/!?".toList.contains c

/-- Text without tags; `fuel` bounds the number of characters. -/
def dropTags : Nat → Text → Text
  | 0, t => t
  | _ + 1, [] => []
  | fuel + 1, c :: t =>
    match if c = '<' && opensTag t then Text.cutAt? ['>'] t else none with
    | some (_, rest) => dropTags fuel rest
    | none => c :: dropTags fuel t

/-- Words with single spaces between them. -/
def joinWords (t : Text) : Text :=
  Text.join [' ']
    ((Text.splitChar ' ' (t.map fun c => if Text.isBlank c then ' ' else c)).filter (!·.isEmpty))

/-- The text of HTML: without comments and tags, and with single spaces between the words. -/
def stripTags (html : Text) : Text :=
  let t := dropComments (html.length + 1) html
  joinWords (dropTags t.length t)

/-- Writes one hyphen for each run of hyphens and blanks. -/
def hyphenate : Bool → Text → Text
  | _, [] => []
  | inRun, c :: t =>
    if c = '-' || Text.isBlank c then (if inRun then [] else ['-']) ++ hyphenate true t
    else c :: hyphenate false t

/-- Words as an identifier: small ASCII letters, digits, underscores and hyphens. -/
def slug (t : Text) : Text :=
  let t := (Text.plain t).filter fun c => Text.isWord c || Text.isBlank c || c == '-'
  hyphenate false (Text.lower (Text.strip t))

/-- The number at the end of an identifier, behind an underscore, and what is before it. -/
def count? (id : Text) : Option (Text × Nat) :=
  let digits := (id.reverse.takeWhile Text.isDigit).reverse
  match (id.take (id.length - digits.length)).reverse with
  | '_' :: front => (Text.ofDecimal? digits).map (front.reverse, ·)
  | _ => none

/-- The next identifier to try. -/
def nextId (id : Text) : Text :=
  match count? id with
  | some (front, n) => front ++ '_' :: Text.decimal (n + 1)
  | none => id ++ "_1".toList

/-- An identifier that is not yet used; `fuel` bounds the number of used ones. -/
def uniqueFuel (used : List Text) : Nat → Text → Text
  | 0, id => id
  | fuel + 1, id =>
    if id.isEmpty || used.contains id then uniqueFuel used fuel (nextId id) else id

/-- An identifier that is not yet used. -/
def unique (used : List Text) (id : Text) : Text := uniqueFuel used (used.length + 2) id

/-! ### Headings -/

/-- A heading of a document, with the headings below it. -/
structure Heading where
  level : Nat
  id : Text
  name : Text
  subheadings : List Heading := []

/-- The name of the attribute that holds identifiers. -/
def idName : Text := "id".toList

/-- Whether an element is a note. -/
def isNote (e : Element) : Bool :=
  e.hasTag "sup" && (e.get? idName).any (Text.opens "fnref".toList)

mutual

/-- Whether raised text with an identifier without a value is inside an element. -/
def hasBareNote : Element → Bool
  | ⟨_, _, _, _, children, _⟩ => hasBareNoteAmong children

/-- Whether raised text with an identifier without a value is among several elements or inside
them. -/
def hasBareNoteAmong : List Element → Bool
  | [] => false
  | e :: es =>
    (e.hasTag "sup" && e.entry? idName == some none) || hasBareNote e || hasBareNoteAmong es

end

mutual

/-- An element without the notes inside it. A note is raised text whose identifier says so. -/
def dropNotes : Element → Element
  | ⟨tag, attributes, text, literal, children, tail⟩ =>
    let (children, lead) := dropNotesOf children
    ⟨tag, attributes, if lead.isEmpty then text else some (text.getD [] ++ lead), literal, children,
      tail⟩

/-- Several elements without the notes among and inside them, and the text that was behind the notes
at the start. -/
def dropNotesOf : List Element → List Element × Text
  | [] => ([], [])
  | e :: es =>
    let (es, lead) := dropNotesOf es
    if isNote e then (es, e.tailD ++ lead)
    else
      let e := dropNotes e
      ({ e with tail := if lead.isEmpty then e.tail else some (e.tailD ++ lead) } :: es, [])

end

/-- The HTML inside an element. -/
def innerHtml (s : Stash) (e : Element) : Text :=
  let t := Inline.Escaped.read e.markup
  let t := t.drop ((t.takeWhile (· != '>')).length + 1)
  let t := ((t.reverse.dropWhile (· != '<')).drop 1).reverse
  Text.strip (s.finish (Text.strip t))

/-- The identifiers in use and the headings met so far, the latest first. -/
structure Index where
  used : List Text
  headings : List Heading := []

/-- The name of the attribute that says what a table of contents calls a heading. -/
def labelName : Text := "data-toc-label".toList

/-- What a table of contents calls a heading: its label, if it has one, or its words. -/
def label (s : Stash) (e : Element) (words : Text) : Except MarkupFault Text :=
  match e.entry? labelName with
  | none => .ok words
  | some none => .error .noValue
  | some (some t) => .ok (Markup.content (stripTags (s.finish (Inline.Escaped.read t))))

/-- Gives a heading its identifier and remembers it. An identifier or a label that is there must have
a value, and so must the identifier of raised text. -/
def enter (s : Stash) (e : Element) : StateT Index (Except MarkupFault) Element := fun index => do
  if !e.isHeading then return (e, index)
  if hasBareNote e then throw .noIdentifier
  let words := stripTags (innerHtml s (dropNotes e))
  let (e, index) := match e.entry? idName with
    | some _ => (e, index)
    | none =>
      let id := unique index.used (slug (Text.Entity.decode words))
      (e.set idName id, { index with used := id :: index.used })
  let name ← label s e words
  let e := { e with attributes := e.attributes.filter (·.1 != labelName) }
  match e.get? idName with
  | none => throw .noValue
  | some id =>
    let level := (e.tag.getLast?.map fun c => c.toNat - '0'.toNat).getD 1
    return (e, { index with headings := ⟨level, id, name, []⟩ :: index.headings })

mutual

/-- The identifiers inside an element. -/
def ids : Element → List Text
  | ⟨_, attributes, _, _, children, _⟩ =>
    (attributes.filter (·.1 == idName)).filterMap (·.2) ++ idsOf children

/-- The identifiers inside several elements. -/
def idsOf : List Element → List Text
  | [] => []
  | e :: es => ids e ++ idsOf es

end

/-- Puts a heading below the last one, as deep as `depth` says. -/
def insertAt (h : Heading) : Nat → List Heading → List Heading
  | 0, hs => hs ++ [h]
  | depth + 1, hs =>
    match hs.reverse with
    | [] => [h]
    | last :: before =>
      ({ last with subheadings := insertAt h depth last.subheadings } :: before).reverse

/-- Puts headings one below the other. `levels` are those of the last heading and of the headings
around it. -/
def nestOnto : List Nat → List Heading → List Heading → List Heading
  | _, made, [] => made
  | levels, made, h :: hs =>
    let around := levels.drop 1
    match levels with
    | [] => nestOnto [h.level] (made ++ [h]) hs
    | last :: _ =>
      if h.level < last then
        let around := around.dropWhile (h.level ≤ ·)
        nestOnto (h.level :: around) (insertAt h around.length made) hs
      else if h.level = last then
        nestOnto levels (insertAt h around.length made) hs
      else nestOnto (h.level :: levels) (insertAt h levels.length made) hs

/-- Puts headings one below the other, by their levels. -/
def nest (hs : List Heading) : List Heading := nestOnto [] [] hs

/-! ### Tables -/

mutual

/-- The entry of a heading. -/
def entry : Heading → Element
  | ⟨_, id, name, subheadings⟩ =>
    .node "li"
      ({ tag := "a".toList, attributes := [("href".toList, some ('#' :: id))]
         text := some name } ::
        (match subheadings with
          | [] => []
          | h :: hs => [.node "ul" (entry h :: entries hs)]))

/-- The entries of several headings. -/
def entries : List Heading → List Element
  | [] => []
  | h :: hs => entry h :: entries hs

end

/-- The table of the headings of a document. -/
def table (hs : List Heading) : Element :=
  Layout.arrange
    { tag := "div".toList, attributes := [("class".toList, some "toc".toList)]
      children := [.node "ul" (entries hs)] }

/-- What gives way to a table of contents. -/
def marker : Text := "[TOC]".toList

/-- Whether an element gives way to a table of contents. -/
def isMarker (e : Element) : Bool := e.children.isEmpty && Text.strip e.textD == marker

mutual

/-- Puts a table of contents for every marker inside an element. -/
def place (table : Element) : Element → Element
  | ⟨tag, attributes, text, literal, children, tail⟩ =>
    ⟨tag, attributes, text, literal, placeOf table children, tail⟩

/-- Puts a table of contents for every marker inside several elements. There are none in headings
and in code. -/
def placeOf (table : Element) : List Element → List Element
  | [] => []
  | e :: es =>
    (if e.isHeading || e.hasTag "pre" || e.hasTag "code" then e
      else if isMarker e then table
      else place table e) :: placeOf table es

end

/-- Gives every heading of a tree its identifier and puts a table for every marker. -/
def build (s : Stash) (root : Element) : Except MarkupFault Element := do
  let (root, index) ← root.alterM (enter s) { used := ids root }
  return place (table (nest index.headings.reverse)) root

end MathPage.Markdown.Contents
