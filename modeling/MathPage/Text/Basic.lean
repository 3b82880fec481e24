/-!
# Texts

A text is a list of characters: of Unicode scalar values, so that every text has an encoding and half a
surrogate pair stands in none. This module holds the searches and cuts that the readers of this
library share:

* `cutAt? p t` – the parts of `t` before and after the first occurrence of `p`;
* `replace`, `split` – all occurrences, from left to right, without overlaps;
* `trimLeft`, `trimRight`, `trim` – what stands at the ends, by a class of characters;
* `decimal`, `ofDecimal?` – natural numbers written in base ten.
-/

namespace MathPage

/-- A text is the list of its characters. -/
abbrev Text := List Char

namespace Text

/-- The quotation mark that encloses attribute values. -/
def quote : Char := '\x22'

/-- The apostrophe, the other quotation mark. -/
def apostrophe : Char := '\x27'

/-- The mark around code spans. -/
def tick : Char := '\x60'

/-- The brace that ends an attribute list. -/
def closeBrace : Char := '\x7d'

/-- The remainder of `t` after the opening `p`, if `t` opens with `p`. -/
def after? : Text → Text → Option Text
  | [], t => some t
  | _ :: _, [] => none
  | a :: p, b :: t => if a = b then after? p t else none

/-- Whether `t` opens with `p`. -/
def opens (p t : Text) : Bool := (after? p t).isSome

/-- The parts of `t` before and after the first occurrence of `p`. -/
def cutAt? (p : Text) : Text → Option (Text × Text)
  | [] => (after? p []).map (([], ·))
  | c :: t =>
    match after? p (c :: t) with
    | some rest => some ([], rest)
    | none => (cutAt? p t).map fun (a, b) => (c :: a, b)

/-- Whether `p` occurs in `t`. -/
def occurs (p t : Text) : Bool := (cutAt? p t).isSome

/-- Cuts `t` at each occurrence of `p`, from left to right; `fuel` bounds the number of cuts. -/
def splitFuel (p : Text) : Nat → Text → List Text
  | 0, t => [t]
  | fuel + 1, t =>
    match cutAt? p t with
    | some (a, b) => a :: splitFuel p fuel b
    | none => [t]

/-- The pieces of `t` between the occurrences of the non-empty text `p`. -/
def split (p t : Text) : List Text := splitFuel p t.length t

/-- Puts `sep` between the pieces. -/
def join (sep : Text) : List Text → Text
  | [] => []
  | [a] => a
  | a :: rest => a ++ sep ++ join sep rest

/-- Writes `new` for each occurrence of the non-empty text `old`. -/
def replace (old new t : Text) : Text := join new (split old t)

/-- The pieces of `t` between the occurrences of one character. -/
def splitChar (c : Char) : Text → List Text
  | [] => [[]]
  | d :: t =>
    if d = c then [] :: splitChar c t
    else
      match splitChar c t with
      | [] => [[d]]
      | a :: rest => (d :: a) :: rest

/-- The lines of a text, without their line feeds. -/
def lines (t : Text) : List Text := splitChar '\n' t

/-- Joins lines by line feeds. -/
def unlines (ls : List Text) : Text := join ['\n'] ls

/-- Drops the leading characters of a class. -/
def trimLeft (p : Char → Bool) (t : Text) : Text := t.dropWhile p

/-- Drops the trailing characters of a class. -/
def trimRight (p : Char → Bool) (t : Text) : Text := (t.reverse.dropWhile p).reverse

/-- Drops the leading and the trailing characters of a class. -/
def trim (p : Char → Bool) (t : Text) : Text := trimRight p (trimLeft p t)

/-- Whether the text ends in `p`. -/
def closes (p t : Text) : Bool := opens p.reverse t.reverse

/-- A natural number in base ten. -/
def decimal (n : Nat) : Text := Nat.toDigits 10 n

/-- Whether a character is one of the ten ASCII digits. -/
def isDigit (c : Char) : Bool := '0' ≤ c && c ≤ '9'

/-- Reads ASCII digits on to a number already read. -/
def ofDigits (n : Nat) (t : Text) : Nat :=
  t.foldl (fun n c => n * 10 + (c.toNat - '0'.toNat)) n

/-- The number that a non-empty run of ASCII digits stands for. -/
def ofDecimal? (t : Text) : Option Nat :=
  if t ≠ [] ∧ t.all isDigit then some (ofDigits 0 t) else none

/-- The two lower-case hexadecimal digits of a byte, the higher first. -/
def hexByte (n : Nat) : Text := [Nat.digitChar (n / 16 % 16), Nat.digitChar (n % 16)]

/-- A number as at least `width` hexadecimal digits. -/
def hex (width n : Nat) : Text :=
  let ds := Nat.toDigits 16 n
  List.replicate (width - ds.length) '0' ++ ds

end Text

end MathPage
