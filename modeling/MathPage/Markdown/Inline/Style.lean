import MathPage.Markdown.Dialect
import MathPage.Text.Class

/-!
# Marks of emphasis

Emphasised text stands between two runs of the same mark. Two marks on each side make the strong
form, one mark on each side the weak form.

* `Style` – a mark with what its two forms are;
* `Style.canOpen`, `Style.canClose` – where a run may stand;
* `Style.refuses` – which runs do not belong together;
* `Style.sizes` – how many marks the pairs between two runs take.
-/

namespace MathPage.Markdown.Inline

/-- How the runs of a mark behave. -/
inductive Manner where
  /-- of three marks the inner one is the weak form; a run among words counts for three at most -/
  | basic
  /-- the weak form stands at the outside and holds no blank -/
  | script
  /-- there is no weak form -/
  | pen
  deriving DecidableEq

/-- A mark of emphasis with the tags of its two forms. -/
structure Style where
  mark : Char
  manner : Manner
  strong : String
  weak : String
  /-- whether the mark means nothing inside a word -/
  wordwise : Bool := false

/-- Punctuation; the signs for sums and the like are none. -/
def isPunctuation (c : Char) : Bool :=
  "!\x22#%&\x27()*,-./:;?@[\\]_\x7b\x7d".toList.contains c

namespace Style

/-- Whether a run can stand in front of emphasised text, given the characters around it: no blank
follows it. A pen does not open in front of punctuation, unless it stands apart from the word
before. -/
def canOpen (s : Style) (before after : Option Char) : Bool :=
  after.any (!Text.isBlank ·) && !(s.wordwise && before.any Text.isWord) &&
    (s.manner != .pen || !after.any isPunctuation ||
      before.all fun c => Text.isBlank c || isPunctuation c)

/-- Whether a run can stand behind emphasised text. -/
def canClose (s : Style) (before after : Option Char) : Bool := s.canOpen after before

/-- Whether a run that could also open is not taken for the end of what a run with `left` of `whole`
marks opened: runs of the same length belong together, others if their lengths do not add up to a
multiple of three, as one and two do. -/
def refuses (s : Style) (whole left n : Nat) : Bool :=
  let count := fun k => if s.manner = .basic then min k 3 else k
  (count left + count n) % 3 == 0 && whole != n

/-- The number of marks on each side of the pairs that `n` marks on each side make, the innermost
pair first. -/
def sizes (s : Style) (n : Nat) : List Nat :=
  let single := List.replicate (n % 2) 1
  let doubles := List.replicate (n / 2) 2
  match s.manner with
  | .basic => single ++ doubles
  | .script => doubles ++ single
  | .pen => doubles

/-- The tag of a pair with so many marks on each side. -/
def tag (s : Style) (size : Nat) : String := if size = 2 then s.strong else s.weak

/-- Underscores, which mean nothing inside a word, and asterisks. -/
def basic : List Style :=
  [⟨'_', .basic, "strong", "em", true⟩, ⟨'*', .basic, "strong", "em", false⟩]

/-- The styles of a dialect, group by group. The first style of a group binds the most. -/
def groups : Dialect → List (List Style)
  | .plain => [basic]
  | .extended =>
    [basic, [⟨'=', .pen, "mark", "mark", false⟩], [⟨'~', .script, "del", "sub", false⟩],
      [⟨'^', .script, "ins", "sup", false⟩]]

end Style

end MathPage.Markdown.Inline
