import MathPage.Document.Stash
import MathPage.Document.Element

/-!
# Putting raw HTML back

In the written document every placeholder is replaced by the piece it stands for. A paragraph that
holds nothing but a placeholder gives way to the piece if that stands on lines of its own; otherwise
the paragraph stays around the piece.

* `Stash.isBlockHtml` – whether a piece of HTML stands on lines of its own;
* `Stash.restore` – the document with its pieces.
-/

namespace MathPage.Stash

/-- The name at the start of a piece of HTML. -/
def tagName? (html : Text) : Option Text :=
  match html with
  | '<' :: t =>
    let t := match t with
      | '/' :: u => if (u.head?.all fun c => c == ' ' || c == '>') then t else u
      | _ => t
    let name := t.takeWhile fun c => c != ' ' && c != '>'
    if name.isEmpty then none else some name
  | _ => none

/-- Whether a piece of HTML is an element on lines of its own, a comment or a declaration. -/
def isBlockHtml (html : Text) : Bool :=
  match tagName? html with
  | some (c :: name) => "!?@%".toList.contains c || isBlockTag (c :: name)
  | _ => false

/-- How an entry is written. -/
def Entry.written : Entry → Text
  | .html t => t
  | .nothing => "None".toList
  | .element tag => "<Element ".toList ++ tag ++ ['>']

/-- The position that a text opens with a placeholder for, and what is behind. -/
def leading? (t : Text) : Option (Nat × Text) :=
  match Text.after? head t with
  | none => none
  | some rest =>
    let digits := rest.takeWhile Text.isDigit
    match rest.drop digits.length with
    | c :: rest => if c = closing then (Text.ofDecimal? digits).map (·, rest) else none
    | [] => none

/-- The same for a paragraph that holds nothing but a placeholder. -/
def leadingParagraph? (t : Text) : Option (Nat × Text) :=
  match Text.after? "<p>".toList t with
  | none => none
  | some t =>
    match leading? t with
    | none => none
    | some (n, rest) => (Text.after? "</p>".toList rest).map (n, ·)

/-- Replaces placeholders; `again` does so in a piece that is put back. `fuel` bounds the number of
characters. -/
def restoreFuel (s : Stash) (again : Text → Text) : Nat → Text → Text
  | 0, t => t
  | _ + 1, [] => []
  | fuel + 1, c :: t =>
    match leadingParagraph? (c :: t) with
    | some (n, rest) =>
      match s.entries[n]? with
      | some e =>
        let html := e.written
        again (if isBlockHtml html then html else "<p>".toList ++ html ++ "</p>".toList) ++
          restoreFuel s again fuel rest
      | none => c :: restoreFuel s again fuel t
    | none =>
      match leading? (c :: t) with
      | some (n, rest) =>
        match s.entries[n]? with
        | some e => again e.written ++ restoreFuel s again fuel rest
        | none => c :: restoreFuel s again fuel t
      | none => c :: restoreFuel s again fuel t

/-- Replaces placeholders; a piece may hold placeholders of its own, up to a depth. -/
def restoreLevels (s : Stash) : Nat → Text → Text
  | 0, t => t
  | depth + 1, t => restoreFuel s (restoreLevels s depth) (t.length + 1) t

/-- The document with its pieces. No piece holds the placeholder of a later one, so that as many
levels as there are pieces are enough. -/
def restore (s : Stash) (t : Text) : Text := restoreLevels s (s.entries.length + 1) t

/-- What stands for an ampersand that no serializer may touch. -/
def ampersand : Text := opening :: "amp".toList ++ [closing]

/-- A written document as it is delivered: with its pieces and with the protected ampersands. -/
def finish (s : Stash) (t : Text) : Text := Text.replace ampersand ['&'] (s.restore t)

end MathPage.Stash
