import MathPage.Document.Element
import MathPage.Text.Pattern

/-!
# Attribute lists

Braces behind an element give it attributes: `#name` sets the identifier, `.name` adds a class,
`key=value` sets an attribute, and a bare word is an attribute without a value or, if it names a
switch of HTML, with its own name as value. For a heading, a term or a cell they stand at the end of
the line, for another block on a line of their own at its end, and for an inline element directly
behind it.

* `Attributes.read` – the entries between the braces, and what an inner closing brace cuts off;
* `Attributes.attach` – gives every element of a tree the attributes meant for it.
-/

namespace MathPage.Markdown.Attributes

/-- An attribute list entry. -/
inductive Entry where
  | addClass (name : Text)
  | set (key value : Text)
  | bare (key : Text)
  deriving DecidableEq, Repr

/-- The entry that a bare word stands for. -/
def word : Text → Entry
  | '.' :: t => .addClass t
  | '#' :: t => .set "id".toList t
  | t => .bare t

/-- A value between two marks, as short as possible and on one line, with what is behind it. -/
def enclosed? (mark : Char) (t : Text) : Option (Text × Text) :=
  match t with
  | [] => none
  | c :: t =>
    if c != mark then none
    else
      let value := t.takeWhile fun c => c != mark && c != '\n'
      match t.drop value.length with
      | d :: rest => if d = mark then some (value, rest) else none
      | [] => none

/-- Splits a text behind its leading characters of a class. -/
def splitWhile (p : Char → Bool) (t : Text) : Text × Text := (t.takeWhile p, t.dropWhile p)

/-- The marks of quotation around a value, which may be repeated, are dropped. -/
def unquoted (mark : Char) (t : Text) : Text := Text.trim (· == mark) t

/-- Reads a value that is not between quotation marks: it ends before a blank, an equality sign or
a closing brace. -/
def isBare (c : Char) : Bool := c != ' ' && c != '=' && c != Text.closeBrace

/-- Reads one entry, nothing for a space between entries. -/
def entry? (t : Text) : Option (Option Entry × Text) :=
  let (key, rest) := splitWhile isBare t
  if key.isEmpty then
    match t with
    | ' ' :: t => some (none, t)
    | _ => none
  else
    match rest with
    | '=' :: rest =>
      match enclosed? Text.quote rest with
      | some (v, rest) => some (some (.set key (unquoted Text.quote v)), rest)
      | none =>
        match enclosed? Text.apostrophe rest with
        | some (v, rest) => some (some (.set key (unquoted Text.apostrophe v)), rest)
        | none =>
          let (v, rest') := splitWhile isBare rest
          if v.isEmpty then some (some (word key), '=' :: rest)
          else some (some (.set key v), rest')
    | _ => some (some (word key), rest)

/-- Reads entries as far as they go. -/
def readFuel : Nat → Text → List Entry × Text
  | 0, t => ([], t)
  | fuel + 1, t =>
    match entry? t with
    | none => ([], t)
    | some (e, rest) =>
      let (es, left) := readFuel fuel rest
      (e.toList ++ es, left)

/-- The entries of a list and what is left from the first closing brace on; anything else that
cannot be read is dropped. -/
def read (t : Text) : List Entry × Text :=
  let (es, left) := readFuel (t.length + 1) t
  (es, left.dropWhile (· != Text.closeBrace))

/-- Whether a character may stand in the name of an attribute. -/
def isNameChar (c : Char) : Bool :=
  let n := c.toNat
  let within := fun (a b : Nat) => a ≤ n && n ≤ b
  Text.isLetter c || Text.isDigit c || "_:-.".toList.contains c || n == 0xb7 ||
  within 0xc0 0xd6 || within 0xd8 0xf6 || within 0xf8 0x37d || within 0x37f 0x1fff ||
  within 0x200c 0x200d || within 0x203f 0x2040 || within 0x2070 0x218f || within 0x2c00 0x2fef ||
  within 0x3001 0xd7ff || within 0xf900 0xfdcf || within 0xfdf0 0xfffd

/-- An attribute name, with an underscore for each run of other characters. -/
def cleanName : Text → Text
  | [] => []
  | [c] => if isNameChar c then [c] else ['_']
  | c :: d :: t =>
    if isNameChar c then c :: cleanName (d :: t)
    else if isNameChar d then '_' :: cleanName (d :: t)
    else cleanName (d :: t)

/-- The attributes that are switches: they are on if they are there. -/
def switches : List String :=
  ["checked", "compact", "declare", "defer", "disabled", "ismap", "multiple", "nohref", "noresize",
    "noshade", "nowrap", "readonly", "selected"]

/-- Whether a name is that of a switch. -/
def isSwitch (name : Text) : Bool := switches.any (·.toList == Text.lower name)

/-- Gives an element the attribute of an entry. -/
def assign (e : Element) : Entry → Element
  | .addClass name =>
    match e.get? "class".toList with
    | some (c :: cs) => e.set "class".toList (c :: cs ++ ' ' :: name)
    | _ => e.set "class".toList name
  | .set key value => e.set (cleanName key) value
  | .bare key => e.put (cleanName key) (if isSwitch key then some key else none)

open Pattern in
/-- A list in braces; what is between them is captured as 1. -/
def braces : Pattern :=
  seqs [str "\x7b", opt (char ':'), star (char ' '),
    .capture 1 (.seq (noneOf "\x7d\n ") (star (other '\n'))), star (char ' '), str "\x7d"]

open Pattern in
/-- A list at the end of a heading. -/
def atLineEnd : Pattern := seqs [plus (char ' '), braces, star (char ' '), lastEnd]

open Pattern in
/-- A list on a line of its own at the end of a block. -/
def onLastLine : Pattern := seqs [char '\n', star (char ' '), braces, star (char ' '), lastEnd]

/-- Cuts a list off a text, if it can be read to its end. -/
def cut? (p : Pattern) (t : Text) : Option (List Entry × Text) :=
  match p.find? t with
  | none => none
  | some m =>
    let (es, left) := read (m.group 1)
    if left.isEmpty then some (es, m.before) else none

/-- Where the attribute list of a block is looked for: at the end of its text, or at the end of the
tail of a child. -/
inductive Spot where
  | text
  | tail (child : Nat)

/-- The spot for an element: behind its last child; in an item that holds a list, before the
list. -/
def spot (e : Element) : Spot :=
  let n := e.children.length
  let behindLast :=
    match e.last? with
    | some c => if c.tailD.isEmpty then Spot.text else .tail (n - 1)
    | none => .text
  if e.hasTag "li" then
    match e.children.findIdx? fun c => c.hasTag "ul" || c.hasTag "ol" with
    | none => behindLast
    | some 0 => .text
    | some (i + 1) =>
      match e.children[i]? with
      | some c => if c.tailD.isEmpty then .text else .tail i
      | none => .text
  else behindLast

/-- Drops the hash signs that close a heading. -/
def dropHashes (e : Element) (t : Text) : Text :=
  if e.isHeading then Text.stripRight (Text.trimRight (· == '#') t) else t

/-- Gives a block the attributes at its end. -/
def attachBlock (e : Element) : Element :=
  let p :=
    if e.isHeading || ["dt", "td", "th"].any e.hasTag then atLineEnd else onLastLine
  match spot e with
  | .text =>
    match cut? p e.textD with
    | some (es, t) => es.foldl assign { e with text := some (dropHashes e t) }
    | none => e
  | .tail i =>
    match e.children[i]? with
    | none => e
    | some c =>
      match cut? p c.tailD with
      | some (es, t) =>
        let c := { c with tail := some (dropHashes e t) }
        es.foldl assign { e with children := e.children.set i c }
      | none => e

/-- Gives an inline element the attributes directly behind it. What was taken for part of the list,
although its brace was closed before, is put back. -/
def attachInline (e : Element) : Element :=
  match braces.opening? e.tailD with
  | none => e
  | some m =>
    let (es, left) := read (m.group 1)
    let back := match left with
      | [] => []
      | _ :: t => t ++ [Text.closeBrace]
    es.foldl assign { e with tail := some (back ++ m.after) }

/-- Gives an element the attributes that are meant for it. -/
def attachOne (e : Element) : Element := if e.isBlock then attachBlock e else attachInline e

/-- Gives every element of a tree the attributes that are meant for it. -/
def attach (root : Element) : Element := root.alter attachOne

end MathPage.Markdown.Attributes
