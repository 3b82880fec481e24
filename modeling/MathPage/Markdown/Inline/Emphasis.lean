import MathPage.Markdown.Inline.Rule
import MathPage.Markdown.Inline.Style

/-!
# Emphasis

A text is read once, from left to right. A run that can close is paired with the latest run of the
same mark that opened something; what it does not use up goes on to the run before, and what is left
then opens something itself. Pairs may hold pairs but do not cross: the later one stays.

* `Pair` – what is between two runs, as positions in the text;
* `Scan` – the runs that are open and the pairs so far;
* `scan` – the pairs of a text;
* `emphasis` – the rule of a group of styles.
-/

namespace MathPage.Markdown.Inline

/-- Marks that belong together: the positions at which the text between them starts and stops, and
those before the first mark and behind the last. -/
structure Pair where
  tag : String
  opens : Nat
  start : Nat
  stop : Nat
  closes : Nat

/-- A run that opened something. -/
structure Opening where
  mark : Char
  /-- the position behind the run -/
  stop : Nat
  /-- the number of its marks -/
  whole : Nat
  /-- how many of them can still be used -/
  left : Nat
  /-- how many of them were used; those are the last ones -/
  used : Nat := 0
  /-- whether it is what a closing run did not use up -/
  isRest : Bool := false
  /-- whether it was refused as a closing run -/
  refused : Bool := false

/-- A run that may close or open something. -/
structure Run where
  start : Nat
  length : Nat
  opens : Bool
  closes : Bool
  isRest : Bool := false

/-- The runs that are open, the latest first, and the pairs so far. -/
structure Scan where
  openings : List Opening := []
  pairs : List Pair := []
  fault : Option MarkupFault := none

namespace Scan

/-- The open runs of a mark, the latest first. -/
def openingsOf (sc : Scan) (mark : Char) : List Opening := sc.openings.filter (·.mark == mark)

/-- Gives up the latest open run of a mark. -/
def drop (sc : Scan) (mark : Char) : Scan :=
  { sc with openings := sc.openings.eraseP (·.mark == mark) }

/-- Opens something. -/
def push (sc : Scan) (a : Opening) : Scan := { sc with openings := a :: sc.openings }

/-- Adds a pair. Pairs that it crosses are given up, and what was opened inside it by a mark that
binds no more. -/
def join (sc : Scan) (marks : List Char) (p : Pair) : Scan :=
  { sc with
    openings := sc.openings.filter fun a =>
      !(marks.contains a.mark && p.start < a.stop && a.stop ≤ p.stop)
    pairs := p :: sc.pairs.filter fun q =>
      !(q.opens < p.opens && p.opens < q.closes && q.closes < p.closes) }

end Scan

/-- The pairs around a text from `start` to `stop`, given their sizes from the inside. -/
def layers (s : Style) : List Nat → Nat → Nat → List Pair
  | [], _, _ => []
  | n :: sizes, start, stop =>
    ⟨s.tag n, start - n, start, stop, stop + n⟩ :: layers s sizes (start - n) (stop + n)

/-- What comes of a run that can close: how many of its marks were used, and whether it was refused
as a closing run. -/
structure Meeting where
  scan : Scan
  taken : Nat := 0
  refused : Bool := false

/-- Pairs a run with an open run of the same style, as far as they belong together. `marks` are those
that bind no more than the style. -/
def meet (marks : List Char) (s : Style) (t : Text) (sc : Scan) (a : Opening) (r : Run) : Meeting :=
  let others := (sc.openingsOf s.mark).drop 1
  let without := sc.drop s.mark
  let k := min a.left r.length
  let start := a.stop - a.used
  let joined := fun (sizes : List Nat) =>
    (layers s sizes start r.start).foldl (fun sc p => sc.join marks p) without
  let rest := { a with left := a.left - k, used := a.used + k }
  let pair := fun (sizes : List Nat) =>
    if rest.left = 0 then joined sizes else (joined sizes).push rest
  if r.opens && s.refuses a.whole a.left r.length then
    -- the run closes what was opened further out, but with the marks of the latest open run
    if s.manner = .basic && others.any fun b => !s.refuses b.whole b.left r.length then
      let n := min a.left 2
      ⟨joined [n], n, false⟩
    else if r.length < a.left then ⟨without, 0, false⟩
    else ⟨sc, 0, true⟩
  else
    match s.manner with
    | .basic => ⟨pair (s.sizes k), k, false⟩
    | .script =>
      if 0 < a.used && a.left < r.length then ⟨without, 0, false⟩
      else if a.used = 0 && k % 2 = 1 && ((t.take r.start).drop a.stop).any Text.isBlank then
        ⟨without, k, false⟩
      else ⟨pair (s.sizes k), k, false⟩
    | .pen =>
      if 2 ≤ k then
        if a.refused && !others.isEmpty then
          ⟨{ without with fault := some .singleMark }, r.length, false⟩
        else ⟨joined (s.sizes k), k / 2 * 2, false⟩
      else if a.isRest then ⟨joined [1], 1, false⟩
      else ⟨sc, 0, false⟩

/-- What a run opens. -/
def Run.opening (r : Run) (s : Style) (refused : Bool) : Opening :=
  { mark := s.mark, stop := r.start + r.length, whole := r.length
    left := if s.manner = .basic && r.closes then min r.length 3 else r.length
    isRest := r.isRest, refused := refused }

/-- Lets a run close what it can and open what is left; gives the position behind it. Every round
uses up a mark. -/
def settle (marks : List Char) (s : Style) (t : Text) : Nat → Scan → Run → Scan × Nat
  | 0, sc, r => (sc, r.start + r.length)
  | fuel + 1, sc, r =>
    let opened := fun (sc : Scan) (refused : Bool) =>
      (if r.opens then sc.push (r.opening s refused) else sc, r.start + r.length)
    match if r.closes then (sc.openingsOf s.mark).head? else none with
    | none => opened sc false
    | some a =>
      let m := meet marks s t sc a r
      if m.taken = 0 then opened m.scan m.refused
      else if m.taken < r.length then
        settle marks s t fuel m.scan
          { r with start := r.start + m.taken, length := r.length - m.taken, isRest := true }
      else (m.scan, r.start + m.taken)

/-- Reads a text from a position on, given the character before it; `fuel` bounds the number of
characters. -/
def scanFrom (styles : List Style) (t : Text) :
    Nat → Scan → Nat → Option Char → Text → Scan
  | 0, sc, _, _, _ => sc
  | _ + 1, sc, _, _, [] => sc
  | fuel + 1, sc, i, before, c :: rest =>
    match styles.dropWhile (·.mark != c) with
    | [] => scanFrom styles t fuel sc (i + 1) (some c) rest
    | s :: weaker =>
      let n := (rest.takeWhile (· == c)).length + 1
      let after := (rest.drop (n - 1)).head?
      let r : Run := ⟨i, n, s.canOpen before after, s.canClose before after, false⟩
      let (sc, j) := settle (s.mark :: weaker.map (·.mark)) s t (n + 1) sc r
      let passed := (c :: rest).drop (j - i - 1)
      scanFrom styles t fuel sc j passed.head? (passed.drop 1)

/-- The pairs of a text, from left to right, an outer one in front of those inside. -/
def scan (styles : List Style) (t : Text) : List Pair × Option MarkupFault :=
  let sc := scanFrom styles t (t.length + 1) {} 0 none t
  (sc.pairs.mergeSort fun p q =>
    p.opens < q.opens || (p.opens == q.opens && q.closes ≤ p.closes), sc.fault)

/-- Takes pairs out of a text that starts at a position; `fuel` is more than their number. -/
def takeOut (inner : Reader) : Nat → List Pair → Nat → Reader
  | 0, _, _, s, t => (t, s)
  | _ + 1, [], _, s, t => (t, s)
  | fuel + 1, p :: ps, pos, s, t =>
    let within := ps.takeWhile (·.opens < p.closes)
    let behind := ps.dropWhile (·.opens < p.closes)
    let content := (t.take (p.stop - pos)).drop (p.start - pos)
    let (content, s) := takeOut inner fuel within p.start s content
    let (mark, s) := place inner (.element (.leaf p.tag content)) s
    let (rest, s) := takeOut inner fuel behind p.closes s (t.drop (p.closes - pos))
    (t.take (p.opens - pos) ++ mark ++ rest, s)

/-- Emphasised text in a group of styles. -/
def emphasis (styles : List Style) : Rule := fun inner s t =>
  let (pairs, fault) := scan styles t
  takeOut inner (pairs.length + 1) pairs 0 { s with fault := s.fault.orElse fun _ => fault } t

end MathPage.Markdown.Inline
