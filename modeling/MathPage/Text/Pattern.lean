import MathPage.Text.Basic

/-!
# Patterns

The marks of a lightweight markup are told from plain text by what stands around them. A `Pattern`
says it: single characters by class, sequences, ordered choice, repetition that takes as much or as
little as it can, named captures, and looks at the neighbouring characters that consume nothing.

* `Pattern.run p c k` – tries the ways in which `p` matches at the cursor `c`, in order, and gives
  the first answer of the continuation `k`;
* `Pattern.at?` – the first match at a cursor;
* `Pattern.find?` – the first match in a text at or after a position;
* `Match` – a match as the cut that it makes in the text, with its captures.

Choice is ordered and a repetition stops at a round that consumes nothing, so `run` is defined by
recursion on the pattern, and a repetition by recursion on the characters left.
-/

namespace MathPage

/-- A place in a text: what stands before it, nearest first, what follows, and the captures made on
the way, each as the text from its start on and its length. -/
structure Cursor where
  back : Text
  rest : Text
  pos : Nat
  captures : List (Nat × Text × Nat)

/-- What to look for in a text. -/
inductive Pattern where
  /-- nothing: always matches, consumes no character -/
  | empty
  /-- one character of a class -/
  | one (p : Char → Bool)
  /-- these characters -/
  | text (t : Text)
  /-- the first pattern, then the second -/
  | seq (a b : Pattern)
  /-- the first pattern or, failing that, the second -/
  | alt (a b : Pattern)
  /-- at least `lo` and at most `hi` rounds, as many as possible if `greedy`, else as few -/
  | many (greedy : Bool) (lo : Nat) (hi : Option Nat) (a : Pattern)
  /-- remembers what the pattern consumed under the number `n` -/
  | capture (n : Nat) (a : Pattern)
  /-- what was captured under the number `n`, once more -/
  | same (n : Nat)
  /-- a test of the character before; `none` at the start of the text -/
  | previous (p : Option Char → Bool)
  /-- a test of the next character; `none` at the end of the text -/
  | next (p : Option Char → Bool)
  /-- whether the pattern matches from here on, or does not; consumes nothing -/
  | ahead (positive : Bool) (a : Pattern)

namespace Cursor

/-- The start of a text. -/
def start (t : Text) : Cursor := ⟨[], t, 0, []⟩

/-- The cursor behind the next character. -/
def step? (c : Cursor) : Option (Char × Cursor) :=
  match c.rest with
  | [] => none
  | x :: xs => some (x, { c with back := x :: c.back, rest := xs, pos := c.pos + 1 })

/-- The cursor behind the given characters, if they come next. -/
def pass? : Text → Cursor → Option Cursor
  | [], c => some c
  | x :: t, c =>
    match c.step? with
    | some (y, c') => if x = y then pass? t c' else none
    | none => none

/-- The cursor `n` characters on, or at the end. -/
def advance : Nat → Cursor → Cursor
  | 0, c => c
  | n + 1, c =>
    match c.step? with
    | some (_, c') => advance n c'
    | none => c

/-- The text captured under a number. -/
def captured? (c : Cursor) (n : Nat) : Option Text :=
  (c.captures.find? (·.1 == n)).map fun e => e.2.1.take e.2.2

end Cursor

namespace Pattern

/-- Rounds of a repetition: `step` tries one round, `k` goes on behind the last. There are at most as
many rounds as the list `fuel` has elements. -/
def rounds (greedy : Bool) (step : Cursor → (Cursor → Option Cursor) → Option Cursor)
    (k : Cursor → Option Cursor) : Text → Nat → Option Nat → Cursor → Option Cursor
  | [], lo, _, c => if lo = 0 then k c else none
  | _ :: fuel, lo, hi, c =>
    let stop := fun (_ : Unit) => if lo = 0 then k c else none
    let more := fun (_ : Unit) =>
      if hi = some 0 then none
      else step c fun c' =>
        if c'.pos = c.pos then none
        else rounds greedy step k fuel (lo - 1) (hi.map (· - 1)) c'
    if greedy then (more ()).orElse stop else (stop ()).orElse more

/-- The first answer of `k` over the ways in which the pattern matches at the cursor. -/
def run : Pattern → Cursor → (Cursor → Option Cursor) → Option Cursor
  | .empty, c, k => k c
  | .one p, c, k =>
    match c.step? with
    | some (x, c') => if p x then k c' else none
    | none => none
  | .text t, c, k =>
    match c.pass? t with
    | some c' => k c'
    | none => none
  | .seq a b, c, k => a.run c fun c' => b.run c' k
  | .alt a b, c, k => (a.run c k).orElse fun _ => b.run c k
  | .many greedy lo hi a, c, k =>
    rounds greedy (fun c k => a.run c k) k (' ' :: c.rest) lo hi c
  | .capture n a, c, k =>
    a.run c fun c' => k { c' with captures := (n, c.rest, c'.pos - c.pos) :: c'.captures }
  | .same n, c, k =>
    match c.captured? n with
    | some t =>
      match c.pass? t with
      | some c' => k c'
      | none => none
    | none => none
  | .previous p, c, k => if p c.back.head? then k c else none
  | .next p, c, k => if p c.rest.head? then k c else none
  | .ahead positive a, c, k =>
    match positive, a.run c some with
    | true, some c' => k { c with captures := c'.captures }
    | false, none => k c
    | _, _ => none

/-! ### Writing patterns -/

/-- The patterns one after the other. -/
def seqs : List Pattern → Pattern
  | [] => .empty
  | [a] => a
  | a :: rest => .seq a (seqs rest)

/-- The first of the patterns that leads to a match. -/
def alts : List Pattern → Pattern
  | [] => .ahead false .empty
  | [a] => a
  | a :: rest => .alt a (alts rest)

/-- The characters of a string. -/
def str (s : String) : Pattern := .text s.toList

/-- One given character. -/
def char (c : Char) : Pattern := .one (· == c)

/-- Any character but one. -/
def other (c : Char) : Pattern := .one (· != c)

/-- Any character. -/
def any : Pattern := .one fun _ => true

/-- One of the given characters. -/
def oneOf (s : String) : Pattern := .one s.toList.contains

/-- Any character but the given ones. -/
def noneOf (s : String) : Pattern := .one fun c => !s.toList.contains c

/-- Any number of rounds, as many as possible. -/
def star (a : Pattern) : Pattern := .many true 0 none a

/-- At least one round, as many as possible. -/
def plus (a : Pattern) : Pattern := .many true 1 none a

/-- Any number of rounds, as few as possible. -/
def starLazy (a : Pattern) : Pattern := .many false 0 none a

/-- At least one round, as few as possible. -/
def plusLazy (a : Pattern) : Pattern := .many false 1 none a

/-- The pattern or nothing. -/
def opt (a : Pattern) : Pattern := .many true 0 (some 1) a

/-- Between `lo` and `hi` rounds, as many as possible. -/
def between (lo hi : Nat) (a : Pattern) : Pattern := .many true lo (some hi) a

/-- The end of the text. -/
def atEnd : Pattern := .next Option.isNone

/-- The start of a line. -/
def lineStart : Pattern := .previous fun o => o.all (· == '\n')

/-- The end of a line. -/
def lineEnd : Pattern := .next fun o => o.all (· == '\n')

/-- The end of the text or the line feed that ends it. -/
def lastEnd : Pattern := .ahead true (.seq (opt (char '\n')) atEnd)

end Pattern

/-- A match as the cut it makes in a text. -/
structure Match where
  before : Text
  text : Text
  after : Text
  /-- the position at which the match starts -/
  start : Nat
  captures : List (Nat × Text × Nat)

namespace Match

/-- The text captured under a number, if that part of the pattern took part in the match. -/
def group? (m : Match) (n : Nat) : Option Text :=
  (m.captures.find? (·.1 == n)).map fun e => e.2.1.take e.2.2

/-- The text captured under a number, empty if that part of the pattern took no part. -/
def group (m : Match) (n : Nat) : Text := (m.group? n).getD []

/-- The position behind the match. -/
def stop (m : Match) : Nat := m.start + m.text.length

end Match

namespace Pattern

/-- The match between two cursors of one text. -/
def toMatch (c c' : Cursor) : Match :=
  { before := c.back.reverse
    text := c.rest.take (c'.pos - c.pos)
    after := c'.rest
    start := c.pos
    captures := c'.captures }

/-- The first match at a cursor. -/
def at? (p : Pattern) (c : Cursor) : Option Match :=
  (p.run c some).map (toMatch c)

/-- The first match at one of the next places, of which there are at most `fuel`. -/
def scan (p : Pattern) : Nat → Cursor → Option Match
  | 0, _ => none
  | fuel + 1, c =>
    match p.at? c with
    | some m => some m
    | none =>
      match c.step? with
      | some (_, c') => scan p fuel c'
      | none => none

/-- The first match in a text at or after a position. -/
def findFrom? (p : Pattern) (pos : Nat) (t : Text) : Option Match :=
  p.scan (t.length + 1) ((Cursor.start t).advance pos)

/-- The first match in a text. -/
def find? (p : Pattern) (t : Text) : Option Match := p.findFrom? 0 t

/-- The match at the start of a text. -/
def opening? (p : Pattern) (t : Text) : Option Match := p.at? (Cursor.start t)

end Pattern

end MathPage
