import MathPage.Text.Basic

/-!
# The shortest decimal of a binary number

A binary floating-point number `m · 2 ^ q` is read back from every decimal in an interval around it.
`digits` gives the decimal with the fewest digits in that interval and, of those, the nearest to
the number.

* `Interval` – a number and the ends of its interval as multiples of one unit;
* `Interval.onGrid?` – the nearest multiple of a power of ten that lies in the interval;
* `digits` – the digits found on the coarsest grid that has a hit, and the exponent of the last;
* `shown` – the text of a number: positional from `1e-4` up to `1e16`, with an exponent elsewhere.
-/

namespace MathPage.Number

/-- The number `mid · 2 ^ q` and the ends of its interval, which belong to it if `closed`. -/
structure Interval where
  low : Nat
  mid : Nat
  high : Nat
  q : Int
  closed : Bool

/-- The numbers that are read as `m · 2 ^ q`; below a power of two the neighbours are nearer. -/
def interval (m : Nat) (q : Int) : Interval :=
  { low := if m = Nat.pow 2 52 && q != -1074 then 4 * m - 1 else 4 * m - 2
    mid := 4 * m
    high := 4 * m + 2
    q := q - 2
    closed := m % 2 == 0 }

/-- `n · 2 ^ q / 10 ^ e` as a quotient of natural numbers. -/
def scaled (n : Nat) (q e : Int) : Nat × Nat :=
  (n * Nat.pow 2 q.toNat * Nat.pow 10 (-e).toNat, Nat.pow 2 (-q).toNat * Nat.pow 10 e.toNat)

/-- Whether `c · 10 ^ e` lies in the interval. -/
def Interval.holds (i : Interval) (c : Nat) (e : Int) : Bool :=
  let (l, d) := scaled i.low i.q e
  let (h, _) := scaled i.high i.q e
  if i.closed then l ≤ c * d && c * d ≤ h else l < c * d && c * d < h

/-- The nearest multiple of `10 ^ e` in the interval; of two equally near ones the even one. -/
def Interval.onGrid? (i : Interval) (e : Int) : Option Nat :=
  let (n, d) := scaled i.mid i.q e
  let c := n / d
  let r := n % d
  let upper := 2 * r > d || (2 * r == d && c % 2 == 1)
  let first := if upper then c + 1 else c
  let second := if upper then c else c + 1
  if i.holds first e then some first
  else if i.holds second e then some second
  else none

/-- Tries grids from `10 ^ e` on, each ten times finer than the one before. -/
def Interval.search (i : Interval) : Nat → Int → Nat × Int
  | 0, e => ((i.onGrid? e).getD 0, e)
  | fuel + 1, e =>
    match i.onGrid? e with
    | some c => if c = 0 then i.search fuel (e - 1) else (c, e)
    | none => i.search fuel (e - 1)

/-- Drops the trailing zeros of a number that is not zero, raising the exponent. -/
def dropZeros : Nat → Nat → Int → Nat × Int
  | 0, c, e => (c, e)
  | fuel + 1, c, e => if c % 10 = 0 then dropZeros fuel (c / 10) (e + 1) else (c, e)

/-- The fewest digits that are read as `m · 2 ^ q`, as a number, and the exponent of the last. -/
def digits (m : Nat) (q : Int) : Nat × Int :=
  let (c, e) := (interval m q).search 700 310
  dropZeros 400 c e

/-- The exponent part: a sign and at least two digits. -/
def exponent (e : Int) : Text :=
  let n := e.natAbs
  ['e', if e < 0 then '-' else '+'] ++ (if n < 10 then ['0'] else []) ++ Text.decimal n

/-- The text of the positive number `c · 10 ^ e`. -/
def shownDigits (c : Nat) (e : Int) : Text :=
  let ds := Text.decimal c
  let k := ds.length
  let point : Int := k + e
  if -4 < point ∧ point ≤ 16 then
    if point ≤ 0 then "0.".toList ++ List.replicate (-point).toNat '0' ++ ds
    else if point < k then ds.take point.toNat ++ ['.'] ++ ds.drop point.toNat
    else ds ++ List.replicate (point - k).toNat '0' ++ ".0".toList
  else
    ds.take 1 ++ (if k = 1 then [] else '.' :: ds.drop 1) ++ exponent (point - 1)

/-- The text of a double-precision number, from its bits. -/
def shownBits (bits : Nat) : Text :=
  let sign := if bits / Nat.pow 2 63 % 2 = 1 then ['-'] else []
  let be : Nat := bits / Nat.pow 2 52 % 2048
  let frac : Nat := bits % Nat.pow 2 52
  if be = 2047 then
    if frac = 0 then sign ++ "inf".toList else "nan".toList
  else if be = 0 ∧ frac = 0 then sign ++ "0.0".toList
  else
    let (c, e) := if be = 0 then digits frac (-1074) else digits (Nat.pow 2 52 + frac) (be - 1075)
    sign ++ shownDigits c e

/-- The text of a number: the fewest digits that read back as it. -/
def shown (x : Float) : Text := shownBits x.toBits.toNat

end MathPage.Number
