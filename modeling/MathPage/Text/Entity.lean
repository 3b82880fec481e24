import MathPage.Text.Basic
import MathPage.Text.NameTable

/-!
# Characters written as entities

HTML can write a character by its number, `&#233;` or `&#xe9;`, or by its name, `&eacute;`. The
semicolon may be missing behind a number and behind the names that need none; such a name may also be
the beginning of a longer word, and then the longest one counts.

* `Entity.numbered` – the text that a number stands for;
* `Entity.named` – the text that a name stands for;
* `Entity.decode` – a text with its entities as the characters they stand for.
-/

namespace MathPage.Text.Entity

/-- The characters that the numbers from 128 to 159 stand for. -/
def windows : List Nat :=
  [0x20ac, 0x81, 0x201a, 0x192, 0x201e, 0x2026, 0x2020, 0x2021, 0x2c6, 0x2030, 0x160, 0x2039,
    0x152, 0x8d, 0x17d, 0x8f, 0x90, 0x2018, 0x2019, 0x201c, 0x201d, 0x2022, 0x2013, 0x2014, 0x2dc,
    0x2122, 0x161, 0x203a, 0x153, 0x9d, 0x17e, 0x178]

/-- Whether a code point is set aside for no character: a control character other than a blank, or
one of those that are never assigned. -/
def isVoid (n : Nat) : Bool :=
  (n < 0x20 && n != 9 && n != 10 && n != 12 && n != 13) || n == 0x7f ||
    (0xfdd0 ≤ n && n ≤ 0xfdef) || n % 0x10000 == 0xfffe || n % 0x10000 == 0xffff

/-- The text that a number stands for. -/
def numbered (n : Nat) : Text :=
  if n = 0 || 0x10ffff < n || (0xd800 ≤ n && n ≤ 0xdfff) then ['\ufffd']
  else if 0x80 ≤ n && n ≤ 0x9f then [Char.ofNat ((windows[n - 0x80]?).getD n)]
  else if isVoid n then []
  else [Char.ofNat n]

/-- Whether a character is a hexadecimal digit. -/
def isHexDigit (c : Char) : Bool := isDigit c || ('a' ≤ c && c ≤ 'f') || ('A' ≤ c && c ≤ 'F')

/-- The number that hexadecimal digits stand for. -/
def ofHex (t : Text) : Nat :=
  t.foldl (fun n c =>
    n * 16 + (if isDigit c then c.toNat - '0'.toNat else c.toLower.toNat - 'a'.toNat + 10)) 0

/-- The text that a name stands for, if it is the name of one or of two characters. -/
def full? (name : Text) : Option Text :=
  match characterNames.find? (·.2.toList == name) with
  | some (n, _) => some [Char.ofNat n]
  | none =>
    (pairNames.find? (·.2.2.toList == name)).map fun (m, n, _) => [Char.ofNat m, Char.ofNat n]

/-- The text that a name without a semicolon stands for. -/
def bare? (name : Text) : Option Text :=
  if bareNames.any (·.toList == name) then full? name else none

/-- The longest beginning of a word, of at most `n` and at least two letters, that is a name without
a semicolon, as the text that it stands for, with the rest of the word. -/
def beginning? (word : Text) : Nat → Option Text
  | 0 | 1 => none
  | n + 2 =>
    match bare? (word.take (n + 2)) with
    | some t => some (t ++ word.drop (n + 2))
    | none => beginning? word (n + 1)

/-- The text that a word behind an ampersand stands for, given whether a semicolon follows it. A word
that is no name stays as it is. -/
def named (word : Text) (closed : Bool) : Text :=
  let ending := if closed then [';'] else []
  match if closed then full? word else bare? word with
  | some t => t
  | none =>
    let longest := if closed then word.length else word.length - 1
    match beginning? word longest with
    | some t => t ++ ending
    | none => '&' :: word ++ ending

/-- Whether a character can stand in the name of an entity. -/
def isNameChar (c : Char) : Bool := !"\t\n\x0c <&#;".toList.contains c

/-- The text that the entity behind an ampersand stands for, and what is behind the entity. -/
def read? (t : Text) : Option (Text × Text) :=
  let closing := fun (rest : Text) =>
    match rest with
    | ';' :: rest => (true, rest)
    | _ => (false, rest)
  match t with
  | '#' :: t =>
    let decimal := t.takeWhile isDigit
    if decimal.isEmpty then
      match t with
      | x :: t =>
        let hex := t.takeWhile isHexDigit
        if (x = 'x' || x = 'X') && !hex.isEmpty then
          some (numbered (ofHex hex), (closing (t.drop hex.length)).2)
        else none
      | [] => none
    else some (numbered (ofDigits 0 decimal), (closing (t.drop decimal.length)).2)
  | _ =>
    let word := (t.take 32).takeWhile isNameChar
    if word.isEmpty then none
    else
      let (closed, rest) := closing (t.drop word.length)
      some (named word closed, rest)

/-- Decodes entities; `fuel` bounds the number of characters. -/
def decodeFuel : Nat → Text → Text
  | 0, t => t
  | _ + 1, [] => []
  | fuel + 1, c :: t =>
    if c = '&' then
      match read? t with
      | some (u, rest) => u ++ decodeFuel fuel rest
      | none => c :: decodeFuel fuel t
    else c :: decodeFuel fuel t

/-- A text with its entities as the characters they stand for. -/
def decode (t : Text) : Text := decodeFuel t.length t

end MathPage.Text.Entity
