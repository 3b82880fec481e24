import MathPage.Text.Class

/-!
# Texts as bytes

* `Utf8.encode` – the UTF-8 bytes of a text;
* `Utf8.decode` – the text that bytes stand for, or the first fault in them;
* `Utf8.Fault.message` – the wording of a fault;
* `unifyLineEnds` – line feeds for all spellings of a line end.

A fault covers the longest run of bytes that could still have begun a character, and at least one
byte.
-/

namespace MathPage

namespace Utf8

/-- Why a byte cannot stand where it does. -/
inductive Reason where
  | start
  | continuation
  | truncated
  deriving DecidableEq, Repr

/-- Bytes that stand for no character: the position of the first, all of them, the reason. -/
structure Fault where
  position : Nat
  bytes : List UInt8
  reason : Reason
  deriving DecidableEq, Repr

def Reason.message : Reason → Text
  | .start => "invalid start byte".toList
  | .continuation => "invalid continuation byte".toList
  | .truncated => "unexpected end of data".toList

/-- The wording of a fault, with the byte if it is a single one. -/
def Fault.message (f : Fault) : Text :=
  let at' := match f.bytes with
    | [b] => "byte 0x".toList ++ Text.hexByte b.toNat ++ " in position ".toList ++
        Text.decimal f.position
    | bs => "bytes in position ".toList ++ Text.decimal f.position ++ "-".toList ++
        Text.decimal (f.position + bs.length - 1)
  "'utf-8' codec can't decode ".toList ++ at' ++ ": ".toList ++ f.reason.message

/-- The bytes of a character. -/
def encodeChar (c : Char) : List UInt8 :=
  let n := c.toNat
  if n < 0x80 then [n.toUInt8]
  else if n < 0x800 then [(0xc0 + n / 0x40).toUInt8, (0x80 + n % 0x40).toUInt8]
  else if n < 0x10000 then
    [(0xe0 + n / 0x1000).toUInt8, (0x80 + n / 0x40 % 0x40).toUInt8, (0x80 + n % 0x40).toUInt8]
  else
    [(0xf0 + n / 0x40000).toUInt8, (0x80 + n / 0x1000 % 0x40).toUInt8,
      (0x80 + n / 0x40 % 0x40).toUInt8, (0x80 + n % 0x40).toUInt8]

/-- The bytes of a text. -/
def encode (t : Text) : List UInt8 := t.flatMap encodeChar

/-- The bytes that may follow the first byte of a character: the bounds of the second byte and the
number of bytes after it. -/
def shape? (b : Nat) : Option (Nat × Nat × Nat) :=
  if b < 0xc2 then none
  else if b < 0xe0 then some (0x80, 0xbf, 0)
  else if b = 0xe0 then some (0xa0, 0xbf, 1)
  else if b = 0xed then some (0x80, 0x9f, 1)
  else if b < 0xf0 then some (0x80, 0xbf, 1)
  else if b = 0xf0 then some (0x90, 0xbf, 2)
  else if b < 0xf4 then some (0x80, 0xbf, 2)
  else if b = 0xf4 then some (0x80, 0x8f, 2)
  else none

/-- What the first byte of a character contributes to its number. -/
def leadValue (b : Nat) : Nat :=
  if b < 0xe0 then b - 0xc0 else if b < 0xf0 then b - 0xe0 else b - 0xf0

/-- Reads the continuation bytes of a character: bounds for the next byte, how many come after it,
the number read so far and the bytes already passed, last first. -/
def continued : Nat → Nat → Nat → Nat → List UInt8 → List UInt8 →
    Except (List UInt8 × Reason) (Nat × List UInt8)
  | _, _, _, _, seen, [] => .error (seen.reverse, .truncated)
  | lo, hi, 0, n, seen, b :: rest =>
    if lo ≤ b.toNat ∧ b.toNat ≤ hi then .ok (n * 0x40 + (b.toNat - 0x80), rest)
    else .error (seen.reverse, .continuation)
  | lo, hi, more + 1, n, seen, b :: rest =>
    if lo ≤ b.toNat ∧ b.toNat ≤ hi then
      continued 0x80 0xbf more (n * 0x40 + (b.toNat - 0x80)) (b :: seen) rest
    else .error (seen.reverse, .continuation)

/-- Decodes from a position on; `fuel` is at least the number of bytes left. -/
def decodeFrom : Nat → Nat → List UInt8 → Except Fault Text
  | 0, _, _ => .ok []
  | _, _, [] => .ok []
  | fuel + 1, pos, b :: rest =>
    let n := b.toNat
    if n < 0x80 then do
      let t ← decodeFrom fuel (pos + 1) rest
      return Char.ofNat n :: t
    else
      match shape? n with
      | none => .error ⟨pos, [b], .start⟩
      | some (lo, hi, more) =>
        match continued lo hi more (leadValue n) [b] rest with
        | .error (bs, r) => .error ⟨pos, bs, r⟩
        | .ok (c, rest') => do
          let t ← decodeFrom fuel (pos + more + 2) rest'
          return Char.ofNat c :: t

/-- The text that the bytes stand for. -/
def decode (bs : List UInt8) : Except Fault Text := decodeFrom bs.length 0 bs

end Utf8

namespace Text

/-- Writes one line feed for each line end, be it `\r\n`, `\r` or `\n`. -/
def unifyLineEnds : Text → Text
  | [] => []
  | '\r' :: '\n' :: t => '\n' :: unifyLineEnds t
  | '\r' :: t => '\n' :: unifyLineEnds t
  | c :: t => c :: unifyLineEnds t

end Text

end MathPage
