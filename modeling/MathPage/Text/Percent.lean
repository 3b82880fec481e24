import MathPage.Text.Utf8

/-!
# Percent-encoding

A query writes letters, digits and the marks `_.-~/` as they are and every other character as the
triples of its UTF-8 bytes: `%` and two upper-case hexadecimal digits.

* `Percent.encode`, `Percent.decode?` – the encoding of a text and the bytes behind one.
-/

namespace MathPage.Percent

/-- The upper-case hexadecimal digit of a number below sixteen. -/
def hexDigit (n : Nat) : Char :=
  if n < 10 then Char.ofNat ('0'.toNat + n) else Char.ofNat ('A'.toNat + (n - 10))

/-- The number that an upper-case hexadecimal digit stands for. -/
def hexValue? (c : Char) : Option Nat :=
  if '0' ≤ c ∧ c ≤ '9' then some (c.toNat - '0'.toNat)
  else if 'A' ≤ c ∧ c ≤ 'F' then some (c.toNat - 'A'.toNat + 10)
  else none

/-- Whether a byte is the code of a character that is written as it is. -/
def isPlain (b : UInt8) : Bool :=
  let c := Char.ofNat b.toNat
  b < 128 && (Text.isLetter c || Text.isDigit c || c == '_' || c == '.' || c == '-' || c == '~' ||
    c == '/')

/-- A byte as it is written. -/
def encodeByte (b : UInt8) : Text :=
  if isPlain b then [Char.ofNat b.toNat]
  else ['%', hexDigit (b.toNat / 16), hexDigit (b.toNat % 16)]

/-- A text as it is written. -/
def encode (t : Text) : Text := (Utf8.encode t).flatMap encodeByte

/-- The bytes behind an encoded text; nothing for a text that is no encoding. -/
def decode? : Text → Option (List UInt8)
  | [] => some []
  | '%' :: a :: b :: t =>
    match hexValue? a, hexValue? b, decode? t with
    | some m, some n, some bs => some ((16 * m + n).toUInt8 :: bs)
    | _, _, _ => none
  | c :: t =>
    if c.toNat < 128 && c != '%' && isPlain c.toNat.toUInt8 then
      (decode? t).map (c.toNat.toUInt8 :: ·)
    else none

end MathPage.Percent
