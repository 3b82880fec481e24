import MathPage.Failure
import MathPage.Markdown.Inline.Nodes
import MathPage.Text.Pattern

/-!
# Inline rules

The inline markup of a text is read rule by rule: the first rule on the whole text, then the second
on what is left, and so on. What a rule finds is taken out, after its own text has been read by the
rules behind it.

* `Rule` – a rule reads a text, given the rules behind it;
* `Find` – what a search finds in a text;
* `Rule.ofMatches` – a rule that looks at the matches of a pattern from left to right;
* `read` – the rules on a text.
-/

namespace MathPage.Markdown.Inline

/-- What was taken out so far, inline nodes and raw HTML, and the first fault that was met. -/
structure State where
  nodes : Nodes := []
  stash : Stash
  fault : Option MarkupFault := none

/-- Takes the inline markup out of a text. -/
abbrev Reader := State → Text → Text × State

/-- A rule reads a text, given how the text inside what it finds is read. -/
abbrev Rule := Reader → Reader

/-- Takes a node out of a text; the text of an element is read first. -/
def place (inner : Reader) (n : Node) (s : State) : Text × State :=
  let (n, s) :=
    match n with
    | .text t => (Node.text t, s)
    | .element e =>
      if e.literal || e.textD.isEmpty then (.element e, s)
      else
        let (t, s) := inner s e.textD
        (.element { e with text := some t }, s)
  let (mark, nodes) := s.nodes.store n
  (mark, { s with nodes := nodes })

/-! ### Searches -/

/-- What a search finds. -/
inductive Find where
  /-- a part of the text that is taken out, with the text in front of it and behind it -/
  | node (n : Node) (before after : Text)
  /-- the search has nothing to say up to a position -/
  | skip (stop : Nat)

/-- What a search makes of a match. -/
inductive Verdict where
  | accept (f : Find) (s : State)
  | reject

/-- Looks at the matches of a pattern from a position on until one is accepted; `fuel` bounds their
number. -/
def search (p : Pattern) (f : State → Match → Verdict) (s : State) (t : Text) :
    Nat → Nat → Option (Find × State)
  | 0, _ => none
  | fuel + 1, pos =>
    match p.findFrom? pos t with
    | none => none
    | some m =>
      match f s m with
      | .accept found s => some (found, s)
      | .reject => search p f s t fuel (max m.stop (pos + 1))

/-- Searches a text until nothing more is found. The search goes on behind what was found; `fuel`
bounds the number of finds. -/
def exhaust (p : Pattern) (f : State → Match → Verdict) (inner : Reader) :
    Nat → Nat → Reader
  | 0, _, s, t => (t, s)
  | fuel + 1, pos, s, t =>
    match search p f s t (t.length + 1) pos with
    | none => (t, s)
    | some (.skip stop, s) => exhaust p f inner fuel (max stop (pos + 1)) s t
    | some (.node n before after, s) =>
      let (mark, s) := place inner n s
      exhaust p f inner fuel (before.length + mark.length) s (before ++ mark ++ after)

/-- A rule that looks at the matches of a pattern. Every find uses up a character of what follows
the find before. -/
def Rule.ofMatches (p : Pattern) (f : State → Match → Verdict) : Rule := fun inner s t =>
  exhaust p f inner (t.length + 1) 0 s t

/-- A rule that takes every match of a pattern for a node. -/
def Rule.ofPattern (p : Pattern) (f : State → Match → Node) : Rule :=
  Rule.ofMatches p fun s m => .accept (.node (f s m) m.before m.after) s

/-! ### Several rules -/

/-- Reads a text by rules. -/
def read : List Rule → Reader
  | [], s, t => (t, s)
  | rule :: rules, s, t =>
    let (t, s) := rule (read rules) s t
    read rules s t

end MathPage.Markdown.Inline
