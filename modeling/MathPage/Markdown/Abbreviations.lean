import MathPage.Document.Element
import MathPage.Markdown.Dialect

/-!
# Abbreviations

Wherever an abbreviation stands as a word, it gets an element that says what it means. Of two
abbreviations that begin at the same place the longer one counts.

* `Abbreviations.split` – the abbreviations in a text;
* `Abbreviations.expand` – marks the abbreviations in a tree.
-/

namespace MathPage.Markdown.Abbreviations

/-- Whether a word begins or ends between two characters. -/
def isBoundary (a b : Option Char) : Bool := a.any Text.isWord != b.any Text.isWord

/-- The longest abbreviation that stands at the start of a text, given the character before, with
what is behind. -/
def first? (d : Definitions) (before : Option Char) (t : Text) : Option (Text × Text) :=
  let candidates := d.abbreviations.filterMap fun (short, _) =>
    match Text.after? short t with
    | none => none
    | some rest =>
      if isBoundary before t.head? && isBoundary short.getLast? rest.head? then some (short, rest)
      else none
  candidates.foldl (fun best c =>
    match best with
    | none => some c
    | some b => if b.1.length < c.1.length then some c else some b) none

/-- The element of an abbreviation. -/
def element (d : Definitions) (short tail : Text) : Element :=
  { tag := "abbr".toList
    attributes := [("title".toList, some ((d.meaning? short).getD []))]
    text := some short, literal := true
    tail := if tail.isEmpty then none else some tail }

/-- The text in front of the first abbreviation and the elements of the abbreviations, each with the
text behind it; `fuel` bounds the number of characters. -/
def splitFuel (d : Definitions) : Nat → Option Char → Text → Text × List Element
  | 0, _, t => (t, [])
  | _ + 1, _, [] => ([], [])
  | fuel + 1, before, c :: t =>
    match first? d before (c :: t) with
    | some (short, rest) =>
      let (tail, es) := splitFuel d fuel short.getLast? rest
      ([], element d short tail :: es)
    | none =>
      let (lead, es) := splitFuel d fuel (some c) t
      (c :: lead, es)

/-- The text in front of the first abbreviation and the elements of the abbreviations. -/
def split (d : Definitions) (t : Text) : Text × List Element := splitFuel d (t.length + 1) none t

mutual

/-- Marks the abbreviations inside an element. -/
def inside (d : Definitions) : Element → Element
  | ⟨tag, attributes, text, literal, children, tail⟩ =>
    let children := insideOf d children
    match literal, text with
    | false, some t =>
      let (lead, es) := split d t
      ⟨tag, attributes, some lead, literal, es ++ children, tail⟩
    | _, _ => ⟨tag, attributes, text, literal, children, tail⟩

/-- Marks the abbreviations inside several elements and behind each of them. -/
def insideOf (d : Definitions) : List Element → List Element
  | [] => []
  | e :: es =>
    let e := inside d e
    match e.tail with
    | some t =>
      let (lead, new) := split d t
      { e with tail := some lead } :: (new ++ insideOf d es)
    | none => e :: insideOf d es

end

/-- Marks the abbreviations in a tree. -/
def expand (d : Definitions) (root : Element) : Element :=
  if d.abbreviations.isEmpty then root else inside d root

end MathPage.Markdown.Abbreviations
