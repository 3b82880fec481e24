import MathPage.Text.Basic
import MathPage.Text.WordTable
import MathPage.Text.GraphicTable
import MathPage.Text.CaseTable
import MathPage.Text.FoldTable
import MathPage.Text.SigmaTable

/-!
# Classes of characters

* `isBlank` – the characters that trimming removes;
* `isWord`, `isNumeral` – what may stand inside a word, the decimal digits of any script;
* `isHidden` – what a quoted text writes as an escape;
* `lower` – small letters for capital ones;
* `plain` – what is left of a text in ASCII.

A class that is given by a table is a list of bounds, ordered code points at which membership
changes: a character belongs to the class if an odd number of bounds is at or below it.
-/

namespace MathPage.Text

/-- Whether an odd number of the ordered bounds is at most `n`. -/
def insideBounds (n : Nat) : List Nat → Bool
  | [] => false
  | b :: bs => if n < b then false else !insideBounds n bs

/-- The blanks: the separators of the general categories `Zs`, `Zl` and `Zp` and the control
characters that separate lines or fields. -/
def isBlank (c : Char) : Bool :=
  let n := c.toNat
  (9 ≤ n && n ≤ 13) || (28 ≤ n && n ≤ 32) || n == 0x85 || n == 0xa0 || n == 0x1680 ||
  (0x2000 ≤ n && n ≤ 0x200a) || n == 0x2028 || n == 0x2029 || n == 0x202f || n == 0x205f ||
  n == 0x3000

/-- Whether a character is an ASCII letter. -/
def isLetter (c : Char) : Bool := ('a' ≤ c && c ≤ 'z') || ('A' ≤ c && c ≤ 'Z')

/-- Letters, numbers and the underscore. -/
def isWord (c : Char) : Bool :=
  if c.toNat < 128 then isLetter c || isDigit c || c == '_' else insideBounds c.toNat wordBounds

/-- The decimal digits of all scripts. -/
def isNumeral (c : Char) : Bool :=
  if c.toNat < 128 then isDigit c else insideBounds c.toNat digitBounds

/-- Whether a character has no glyph of its own, so that a quoted text writes it as an escape. -/
def isHidden (c : Char) : Bool :=
  if c.toNat < 127 then c.toNat < 32 else insideBounds c.toNat hiddenBounds

/-- The small letter for a code point beyond ASCII. -/
def lowerCode (n : Nat) : List (Nat × Nat × Nat × Nat) → Nat
  | [] => n
  | (a, b, s, l) :: runs =>
    if a ≤ n && n ≤ b && (n - a) % s == 0 then l + (n - a) else lowerCode n runs

/-- The small letter for a capital one; any other character stays. -/
def lowerChar (c : Char) : Char :=
  if c.toNat < 128 then c.toLower else Char.ofNat (lowerCode c.toNat capitalRuns)

/-- Whether a character is a letter with two cases. -/
def isCased (c : Char) : Bool :=
  if c.toNat < 128 then isLetter c else insideBounds c.toNat casedBounds

/-- Whether a character is passed over when the end of a word is looked for. -/
def isPassed (c : Char) : Bool := insideBounds c.toNat passedBounds

/-- Whether a letter with two cases comes next, after characters that are passed over. -/
def casedNext (t : Text) : Bool := ((t.dropWhile isPassed).head?).any isCased

/-- A text in small letters, given whether a letter with two cases was the last character before it
that is not passed over. A capital sigma depends on both sides; a capital I with a dot keeps it. -/
def lowerFrom : Bool → Text → Text
  | _, [] => []
  | cased, c :: t =>
    (if c = 'Σ' then [if cased && !casedNext t then 'ς' else 'σ']
      else if c = 'İ' then ['i', '\u0307']
      else [lowerChar c]) ++
      lowerFrom (if isPassed c then cased else isCased c) t

/-- A text in small letters. -/
def lower (t : Text) : Text := lowerFrom false t

/-- The plain equivalent of a code point, by the runs of styled letters. -/
def styled? (n : Nat) : List (Nat × Nat × Nat) → Option Nat
  | [] => none
  | (a, b, l) :: runs => if a ≤ n && n ≤ b then some (l + (n - a)) else styled? n runs

/-- The ASCII text that a character leaves when accents and styles are taken off. -/
def plainChar (c : Char) : Text :=
  if c.toNat < 128 then [c]
  else
    match styled? c.toNat styledRuns with
    | some n => [Char.ofNat n]
    | none =>
      match plainEquivalents.find? (fun e => e.2.contains c.toNat) with
      | some (s, _) => s.toList
      | none => []

/-- The ASCII text that a text leaves when accents and styles are taken off. -/
def plain (t : Text) : Text := t.flatMap plainChar

/-- Drops the blanks at both ends. -/
def strip (t : Text) : Text := trim isBlank t

/-- Drops the blanks at the start. -/
def stripLeft (t : Text) : Text := trimLeft isBlank t

/-- Drops the blanks at the end. -/
def stripRight (t : Text) : Text := trimRight isBlank t

/-- Whether a text holds nothing but blanks. -/
def allBlank (t : Text) : Bool := t.all isBlank

end MathPage.Text
