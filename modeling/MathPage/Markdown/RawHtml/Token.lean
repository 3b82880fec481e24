import MathPage.Document.Element
import MathPage.Text.Pattern

/-!
# Markup in raw HTML

* `Token` – what a piece of HTML is;
* `token` – what HTML a text begins with.
-/

namespace MathPage.Markdown.RawHtml

/-- A piece of markup. -/
inductive Token where
  | text
  /-- markup without content of its own, as it is written -/
  | single (written : Text) (block : Bool)
  /-- a comment, by what stands inside -/
  | comment (inside : Text)
  | opened (tag : Text)
  | closed (tag : Text)
  /-- markup that never ends -/
  | endless
  /-- a number sign behind an ampersand that begins no entity -/
  | stray

/-- Whether a character ends the name of a tag. -/
def endsName (c : Char) : Bool := "\t\n\r\x0c />\x00".toList.contains c

open Pattern in
/-- A blank. -/
def blank : Pattern := .one Text.isBlank

open Pattern in
/-- What may stand behind an attribute: blanks, and slashes that do not close the tag. -/
def filler : Pattern := star (.alt blank (.seq (char '/') (.next fun o => o != some '>')))

open Pattern in
/-- An attribute. Names and bare values without the characters in `barred`. -/
def attr (barred behind : Pattern) : Pattern :=
  let free := fun (p : Char → Bool) => Pattern.seq (.ahead false barred) (.one p)
  seqs [.previous fun o => o.any fun c => Text.isBlank c || "'\"/".toList.contains c,
    free fun c => !Text.isBlank c && c != '/' && c != '>',
    star (.one fun c => !Text.isBlank c && !"/=>".toList.contains c),
    opt (seqs [star blank, plus (char '='), star blank,
      alts [seqs [char '\'', star (other '\''), char '\''],
        seqs [char Text.quote, star (other Text.quote), char Text.quote],
        .seq (.next fun o => !o.any "'\"".toList.contains)
          (star (free fun c => c != '>' && !Text.isBlank c))],
      behind]),
    filler]

open Pattern in
/-- A start tag up to its closing bracket. -/
def startTag : Pattern :=
  seqs [char '<', .one Text.isLetter, star (.one fun c => c != Text.tick && !endsName c),
    opt (.seq (star (.alt blank (char '/')))
      (star (attr (char Text.tick) (star (.seq (star blank) (char ',')))))),
    star blank]

open Pattern in
/-- The same, but a slash before the bracket is left. -/
def tagInside : Pattern :=
  seqs [char '<', .one Text.isLetter, star (.one fun c => !endsName c), filler,
    star (attr (.ahead false .empty) .empty)]

/-- The name that a text opens with, in small letters. -/
def nameOf (t : Text) : Text := Text.lower (t.takeWhile fun c => !endsName c)

/-- A start tag: its length and what it is. -/
def startToken (t : Text) : Nat × Token :=
  match startTag.opening? t with
  | none => (1, .text)
  | some m =>
    let tag := nameOf (t.drop 1)
    match m.after with
    | '>' :: _ =>
      let n := m.text.length + 1
      let inner := ((tagInside.opening? t).map (·.text.length)).getD 0
      let left := Text.strip ((t.take n).drop inner)
      if left = "/>".toList then (n, .single (t.take n) (isBlockTag tag))
      else if left = ['>'] then
        (n, if tag = "hr".toList then .single (t.take n) true else .opened tag)
      else (n, .text)
    | '/' :: '>' :: _ =>
      let n := m.text.length + 2
      (n, .single (t.take n) (isBlockTag tag))
    | c :: _ =>
      if c = '/' || c = '=' || Text.isLetter c then (1, .text) else (m.text.length, .text)
    | [] => (1, .text)

/-- An end tag. Its name follows the slash at once. -/
def endToken (t : Text) : Nat × Token :=
  match t.drop 2 with
  | c :: _ =>
    if Text.isLetter c then
      match Text.cutAt? ['>'] t with
      | some (a, _) => (a.length + 1, .closed (nameOf (t.drop 2)))
      | none => (1, .endless)
    else if c = '>' then (3, .text)
    else (2, .text)
  | [] => (2, .text)

/-- The first match of a pattern behind the first `skip` characters: what stands before it, and how
many characters there are up to its end. -/
def upTo? (skip : Nat) (closing : Pattern) (t : Text) : Option (Text × Nat) :=
  (closing.find? (t.drop skip)).map fun m => (t.take (skip + m.start), skip + m.stop)

/-- Markup up to a bracket, as it is written. -/
def bracketed (skip : Nat) (block : Bool) (t : Text) : Nat × Token :=
  match upTo? skip (.char '>') t with
  | some (_, n) => (n, .single (t.take n) block)
  | none => (1, .endless)

open Pattern in
/-- A comment; if it does not end, its first character is text. -/
def commentToken (t : Text) : Nat × Token :=
  match upTo? 4 (seqs [str "--", opt (char '!'), char '>']) t with
  | some (a, n) => (n, .comment (a.drop 4))
  | none => (1, .text)

open Pattern in
/-- A declaration or an instruction that begins a line. The brackets that end a section of data may
have blanks between them. -/
def declaration (t : Text) : Nat × Token :=
  if Text.opens "<?".toList t then
    match upTo? 2 (str "?>") t with
    | some (_, n) => (n, .single (t.take n) true)
    | none => (1, .endless)
  else if Text.opens "<![CDATA[".toList t then
    match upTo? 3 (seqs [char ']', star blank, char ']', star blank, char '>']) t with
    | some (a, n) => (n, .single (a ++ "]]>".toList) true)
    | none => (1, .endless)
  else if Text.opens "<![".toList t then
    match bracketed 2 false t with
    | (_, .endless) => (1, .text)
    | r => r
  else if Text.opens "<!doctype".toList (Text.lower (t.take 9)) then bracketed 9 true t
  else bracketed 2 false t

/-- An entity with a number; it is written with a semicolon whether or not it has one. -/
def numericToken (t : Text) : Nat × Token :=
  let rest := t.drop 2
  let decimal := rest.takeWhile Text.isDigit
  let isHexDigit := fun (c : Char) => Text.isDigit c || "abcdefABCDEF".toList.contains c
  let digits :=
    if decimal.isEmpty then
      match rest with
      | c :: ds =>
        let hex := ds.takeWhile isHexDigit
        if (c == 'x' || c == 'X') && !hex.isEmpty then c :: hex else []
      | [] => []
    else decimal
  match digits, rest.drop digits.length with
  | [], _ => (2, .stray)
  | _, [] => (2, .stray)
  | _, c :: _ =>
    if isHexDigit c then (2, .stray)
    else
      (2 + digits.length + if c = ';' then 1 else 0,
        .single ("&#".toList ++ digits ++ [';']) false)

/-- Whether a text begins with what is a declaration or an instruction if it begins a line. -/
def maybeDeclaration (t : Text) : Bool :=
  Text.opens "<?".toList t || (Text.opens "<!".toList t && !Text.opens "<!--".toList t)

/-- The markup that a text begins with, where it may begin a line: its length and what it is. -/
def token (lineStart : Bool) (t : Text) : Nat × Token :=
  if maybeDeclaration t then (if lineStart then declaration t else (2, .text))
  else
    match t with
    | '<' :: '/' :: _ => endToken t
    | '<' :: '!' :: _ => commentToken t
    | '<' :: c :: _ => if Text.isLetter c then startToken t else (1, .text)
    | '&' :: '#' :: _ => numericToken t
    | '&' :: c :: u =>
      let name := u.takeWhile fun c => Text.isLetter c || Text.isDigit c || c == '-' || c == '.'
      if Text.isLetter c && (u.drop name.length).head? == some ';' then
        let n := name.length + 3
        (n, .single (t.take n) false)
      else (1, .text)
    | _ => (1, .text)

end MathPage.Markdown.RawHtml
