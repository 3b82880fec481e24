import MathPage.Document.Markup
import MathPage.Document.Stash
import MathPage.Document.Element
import MathPage.Markdown.Dialect

/-!
# Inline nodes

While the inline markup of a text is read, every finished part is taken out and stood for by a
placeholder, so that later rules see it as a single thing without markup. A node is either such a
part or a text that no rule may read.

* `Nodes.store`, `Nodes.pieces` – placeholders, and the pieces of a text between them;
* `Nodes.plain` – a text with what its placeholders say;
* `Nodes.source` – a text with the markup that its placeholders stand for;
* `Nodes.resolve` – a text with its placeholders as elements;
* `Escaped.write`, `Escaped.read` – a protected character is written by its code point.
-/

namespace MathPage.Markdown.Inline

/-! ### Protected characters -/

namespace Escaped

/-- A protected character. -/
def write (c : Char) : Text := Stash.opening :: Text.decimal c.toNat ++ [Stash.closing]

/-- The number between control characters that a text begins with, and what is behind. -/
def leading? (t : Text) : Option (Nat × Text) :=
  match t with
  | [] => none
  | c :: t =>
    if c != Stash.opening then none
    else
      let digits := t.takeWhile Text.isDigit
      match t.drop digits.length with
      | d :: rest => if d = Stash.closing then (Text.ofDecimal? digits).map (·, rest) else none
      | [] => none

/-- Writes protected characters as themselves; `fuel` bounds the number of characters. -/
def readFuel : Nat → Text → Text
  | 0, t => t
  | _ + 1, [] => []
  | fuel + 1, c :: t =>
    match leading? (c :: t) with
    | some (n, rest) => Char.ofNat n :: readFuel fuel rest
    | none => c :: readFuel fuel t

/-- A text with its protected characters as themselves. -/
def read (t : Text) : Text := readFuel t.length t

/-- Whether a character can be markup. -/
def isMark (c : Char) : Bool :=
  ' ' < c && c < '\x7f' && !Text.isDigit c && !('A' ≤ c && c ≤ 'Z') && !('a' ≤ c && c ≤ 'z')

/-- A text in which every character that can be markup is protected. -/
def writeMarks (t : Text) : Text := t.flatMap fun c => if isMark c then write c else [c]

end Escaped

/-! ### Nodes -/

/-- A finished part of a text. -/
inductive Node where
  | text (t : Text)
  | element (e : Element)

/-- The finished parts in the order in which they were taken out. -/
abbrev Nodes := List Node

/-- A piece of a text. -/
inductive Piece where
  | plain (t : Text)
  | node (n : Nat)

namespace Nodes

/-- What a placeholder opens with. -/
def head : Text := Stash.opening :: "klzzwxh:".toList

/-- The placeholder for the node at a position, in at least four digits. -/
def placeholder (n : Nat) : Text :=
  let digits := Text.decimal n
  head ++ List.replicate (4 - digits.length) '0' ++ digits ++ [Stash.closing]

/-- Takes a part out. -/
def store (ns : Nodes) (n : Node) : Text × Nodes := (placeholder ns.length, ns ++ [n])

/-- The position that a text opens with a placeholder for, and what is behind. -/
def leading? (t : Text) : Option (Nat × Text) :=
  match Text.after? head t with
  | none => none
  | some rest => Escaped.leading? (Stash.opening :: rest)

/-- Puts a character in front of pieces. -/
def cons (c : Char) : List Piece → List Piece
  | .plain t :: ps => .plain (c :: t) :: ps
  | ps => .plain [c] :: ps

/-- The pieces of a text; `fuel` bounds the number of characters. -/
def piecesFuel : Nat → Text → List Piece
  | 0, _ => []
  | _ + 1, [] => []
  | fuel + 1, c :: t =>
    match leading? (c :: t) with
    | some (n, rest) => .node n :: piecesFuel fuel rest
    | none => cons c (piecesFuel fuel t)

/-- The texts and the placeholders of a text. -/
def pieces (t : Text) : List Piece := piecesFuel t.length t

/-- What a node says. -/
def Node.words : Node → Text
  | .text t => t
  | .element e => e.texts

/-- A text with what its placeholders say. -/
def plain (ns : Nodes) (t : Text) : Text :=
  (pieces t).flatMap fun
    | .plain t => t
    | .node n => (ns[n]?.map Node.words).getD []

/-- A text with the markup that its placeholders stand for; a text node is written behind a
backslash. Nodes hold placeholders of earlier nodes only, so that `depth` levels are enough. -/
def sourceLevels (ns : Nodes) : Nat → Text → Text
  | 0, t => t
  | depth + 1, t =>
    (pieces t).flatMap fun
      | .plain t => t
      | .node n =>
        match ns[n]? with
        | some (.text t) => '\\' :: t
        | some (.element e) => sourceLevels ns depth e.markup
        | none => []

/-- A text with the markup that its placeholders stand for. -/
def source (ns : Nodes) (t : Text) : Text := sourceLevels ns (ns.length + 1) t

/-- Adds text behind the latest of several elements, of which the latest comes first, or to the
text in front of them. -/
def appendText (t : Text) : Text × List Element → Text × List Element
  | (lead, []) => (lead ++ t, [])
  | (lead, e :: es) =>
    (lead, if t.isEmpty then e :: es else { e with tail := some (e.tailD ++ t) } :: es)

/-- Protects the text behind the last of several elements. -/
def protectEnd : List Element → List Element
  | [] => []
  | [e] => [{ e with tail := e.tail.map Escaped.writeMarks }]
  | e :: es => e :: protectEnd es

/-- A text with its placeholders as elements: the text in front of the first element, and the
elements with the text behind each. What ends a literal text stays literal. -/
def resolveLevels (ns : Nodes) : Nat → Text → Text × List Element
  | 0, t => (t, [])
  | depth + 1, t =>
    let (lead, es) := (pieces t).foldl (fun acc p =>
      match p with
      | .plain t => appendText t acc
      | .node n =>
        match ns[n]? with
        | some (.text t) => appendText t acc
        | some (.element e) =>
          let (inner, below) := resolveLevels ns depth e.textD
          let e :=
            { e with
              text := if inner.isEmpty then none else some inner
              literal := e.literal && inner == e.textD
              children := (if e.literal then protectEnd below else below) ++ e.children }
          (acc.1, e :: acc.2)
        | none => acc) ([], [])
    (lead, es.reverse)

/-- A text with its placeholders as elements. -/
def resolve (ns : Nodes) (t : Text) : Text × List Element := resolveLevels ns (ns.length + 1) t

end Nodes

end MathPage.Markdown.Inline
