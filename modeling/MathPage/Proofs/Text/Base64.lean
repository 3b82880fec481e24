import Mathlib.Tactic
import MathPage.Text.Base64

/-!
# Reading base 64

* `value?` – the number below 64 that a digit stands for, and `number?`, that of several digits;
* `decode?` – the bytes behind groups of four digits; the last group may be one of two or three
  digits, padded with `=`.

What was written is read back (`decode?_encode`), for any number of bytes.
-/

namespace MathPage.Base64

/-- The number that a digit stands for. -/
def value? (c : Char) : Option ℕ :=
  if 'A' ≤ c ∧ c ≤ 'Z' then some (c.toNat - 'A'.toNat)
  else if 'a' ≤ c ∧ c ≤ 'z' then some (c.toNat - 'a'.toNat + 26)
  else if '0' ≤ c ∧ c ≤ '9' then some (c.toNat - '0'.toNat + 52)
  else if c = '+' then some 62
  else if c = '/' then some 63
  else none

/-- Reads digits on to a number already read. -/
def numberFrom? (n : ℕ) : Text → Option ℕ
  | [] => some n
  | c :: t => (value? c).bind fun m => numberFrom? (64 * n + m) t

/-- The number that some digits stand for, the highest digit first. -/
def number? (t : Text) : Option ℕ := numberFrom? 0 t

/-- The bytes behind some digits; nothing for a text that is no encoding. -/
def decode? : Text → Option (List UInt8)
  | [] => some []
  | a :: b :: c :: d :: t =>
    if d ≠ '=' then do
      let n ← number? [a, b, c, d]
      let bytes ← decode? t
      return (n / 0x10000).toUInt8 :: (n / 0x100 % 0x100).toUInt8 :: (n % 0x100).toUInt8 :: bytes
    else if t ≠ [] then none
    -- a padded group ends the text; the bits behind its last byte are not looked at
    else if c ≠ '=' then (number? [a, b, c]).map fun n =>
      [(n / 0x400).toUInt8, (n / 0x4 % 0x100).toUInt8]
    else (number? [a, b]).map fun n => [(n / 0x10).toUInt8]
  | _ => none

theorem value?_digit {n : ℕ} (hn : n < 64) : value? (digit n) = some n := by
  have hdigits : ∀ n < 64, value? (digit n) = some n := by decide
  exact hdigits n hn

theorem digit_ne_pad {n : ℕ} (hn : n < 64) : digit n ≠ '=' := by
  have hdigits : ∀ n < 64, digit n ≠ '=' := by decide
  exact hdigits n hn

theorem numberFrom?_digit {n : ℕ} (hn : n < 64) (m : ℕ) (t : Text) :
    numberFrom? m (digit n :: t) = numberFrom? (64 * m + n) t := by
  rw [numberFrom?, value?_digit hn, Option.bind_some]

/-- **Bytes are read back**, whatever is left of their number behind groups of three. -/
theorem decode?_encode (bytes : List UInt8) : decode? (encode bytes) = some bytes := by
  fun_induction encode bytes with
  | case1 => rfl
  | case2 a n =>
    have ha : a.toNat < 256 := a.toNat_lt
    have hn : n = a.toNat * 0x10000 := rfl
    have hnumber : number? [digit (n / 0x40000), digit (n / 0x1000 % 64)] = some (n / 0x1000) := by
      rw [number?, numberFrom?_digit (by omega), numberFrom?_digit (by omega), numberFrom?,
        Option.some.injEq]
      omega
    have hbyte : n / 0x1000 / 0x10 = a.toNat := by omega
    simp [decode?, hnumber, hbyte]
  | case3 a b n =>
    have ha : a.toNat < 256 := a.toNat_lt
    have hb : b.toNat < 256 := b.toNat_lt
    have hn : n = a.toNat * 0x10000 + b.toNat * 0x100 := rfl
    have hpad : digit (n / 0x40 % 64) ≠ '=' := digit_ne_pad (by omega)
    have hnumber : number? [digit (n / 0x40000), digit (n / 0x1000 % 64), digit (n / 0x40 % 64)] =
        some (n / 0x40) := by
      rw [number?, numberFrom?_digit (by omega), numberFrom?_digit (by omega),
        numberFrom?_digit (by omega), numberFrom?, Option.some.injEq]
      omega
    have hfirst : n / 0x40 / 0x400 = a.toNat := by omega
    have hsecond : n / 0x40 / 0x4 % 0x100 = b.toNat := by omega
    simp [decode?, hpad, hnumber, hfirst, hsecond]
  | case4 a b c rest n ih =>
    have ha : a.toNat < 256 := a.toNat_lt
    have hb : b.toNat < 256 := b.toNat_lt
    have hc : c.toNat < 256 := c.toNat_lt
    have hn : n = a.toNat * 0x10000 + b.toNat * 0x100 + c.toNat := rfl
    have hpad : digit (n % 64) ≠ '=' := digit_ne_pad (by omega)
    have hnumber : number? [digit (n / 0x40000), digit (n / 0x1000 % 64), digit (n / 0x40 % 64),
        digit (n % 64)] = some n := by
      rw [number?, numberFrom?_digit (by omega), numberFrom?_digit (by omega),
        numberFrom?_digit (by omega), numberFrom?_digit (by omega), numberFrom?, Option.some.injEq]
      omega
    have hfirst : n / 0x10000 = a.toNat := by omega
    have hsecond : n / 0x100 % 0x100 = b.toNat := by omega
    have hthird : n % 0x100 = c.toNat := by omega
    simp [decode?, hpad, hnumber, ih, hfirst, hsecond, hthird]

end MathPage.Base64
