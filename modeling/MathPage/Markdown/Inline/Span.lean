import MathPage.Document.Restore
import MathPage.Markdown.Block.Prose
import MathPage.Markdown.Entities
import MathPage.Markdown.Inline.Rule

/-!
# Spans without inner markup

* `code` – code between marks of the same length;
* `mathematics` – a formula between dollar signs or between `\(` and `\)`;
* `escape` – a backslash in front of a character that would be markup;
* `lineBreak` – two spaces at the end of a line;
* `tag`, `entity` – HTML inside a line;
* `address`, `mail` – an address between angle brackets is a link to itself.
-/

namespace MathPage.Markdown.Inline

/-- The backslashes of a run of pairs, each protected. -/
def pairs (run : Text) : Node :=
  .text ((List.replicate (run.length / 2) (Escaped.write '\\')).flatten)

open Pattern in
/-- No backslash before. -/
def unescaped : Pattern := .previous fun o => o != some '\\'

open Pattern in
/-- Pairs of backslashes in front of a mark of code, captured as 1, or a run of marks up to the next
mark behind it. -/
def codePattern : Pattern :=
  let tick := char Text.tick
  .alt (seqs [unescaped, .capture 1 (plus (str "\\\\")), .ahead true tick])
    (seqs [unescaped, plus tick, plusLazy any, tick])

/-- A run of marks of one kind, and what is behind. -/
def cutRun (mark : Char) (t : Text) : Text × Text := t.span (· == mark)

/-- The text up to the first run of exactly `n` marks, and what is behind the run; `fuel` bounds the
number of characters. -/
def cutAtRun? (mark : Char) (n : Nat) : Nat → Text → Option (Text × Text)
  | 0, _ => none
  | _ + 1, [] => none
  | fuel + 1, c :: t =>
    if c = mark then
      let (run, rest) := cutRun mark (c :: t)
      if run.length = n then some ([], rest)
      else (cutAtRun? mark n fuel rest).map fun (a, b) => (run ++ a, b)
    else (cutAtRun? mark n fuel t).map fun (a, b) => (c :: a, b)

/-- The code between two runs of marks and what is behind, given the length of the first run. A
first run whose length occurs nowhere behind it is taken for a shorter run with marks behind it; but
if only a part of a longer run is that long, it opens nothing. -/
def codeBehind? (after : Text) : Nat → Nat → Option (Text × Text)
  | 0, _ => none
  | n + 1, spare =>
    let marks := List.replicate (n + 1) Text.tick
    let lead := List.replicate spare Text.tick
    if Text.occurs marks (lead ++ after) then
      (cutAtRun? Text.tick (n + 1) (after.length + 1) after).map fun (a, b) => (lead ++ a, b)
    else codeBehind? after n (spare + 1)

/-- Code. -/
def code : Rule := Rule.ofMatches codePattern fun s m =>
  if m.text.head? == some Text.tick then
    let (run, after) := cutRun Text.tick (m.text ++ m.after)
    match codeBehind? after run.length 0 with
    | some (t, rest) =>
      let e : Element :=
        { tag := "code".toList, text := some (Block.escape (Text.strip t)), literal := true }
      .accept (.node (.element e) m.before rest) s
    | none => .reject
  else .accept (.node (pairs (m.group 1)) m.before m.after) s

open Pattern in
/-- A formula, captured as 3 or 6. Pairs of backslashes in front of one are captured as 1 or 4.
What was taken out before is no part of a formula. -/
def formulaPattern : Pattern :=
  let bare := fun (o : Option Char) => !o.any Text.isBlank
  let free := Pattern.seq (.next fun o => o != some Stash.opening)
  alts
    [seqs [unescaped, .capture 1 (plus (str "\\\\")), .ahead true (char '$')],
      seqs [unescaped, char '$', .next bare,
        .capture 3 (plusLazy (free (.alt (.seq (char '\\') any) (noneOf "\\$")))),
        .previous bare, char '$'],
      seqs [unescaped, .capture 4 (plusLazy (str "\\\\")), .ahead true (str "\\(")],
      seqs [unescaped, str "\\(", .capture 6 (plusLazy (free (Block.formulaCharBefore ')'))),
        str "\\)"]]

/-- What a match of the formula pattern stands for. -/
def formulaNode (m : Match) : Node :=
  match m.group? 3, m.group? 6 with
  | some t, _ | none, some t => .element (Block.formula "span" "\\(" "\\)" t)
  | none, none => pairs (if (m.group 1).isEmpty then m.group 4 else m.group 1)

/-- Formulas, from left to right. -/
def mathematics : Rule := Rule.ofPattern formulaPattern fun _ m => formulaNode m

/-- The characters that a backslash protects. -/
def protectable : Dialect → Text
  | .plain => Text.tick :: "\\*_\x7b\x7d[]()>#+-.!".toList
  | .extended => Text.tick :: "\\*_\x7b\x7d[]()>#+-.!|^ ~=$".toList

open Pattern in
/-- Characters behind a backslash. -/
def escape (d : Dialect) : Rule :=
  Rule.ofMatches (.seq (char '\\') (.capture 1 any)) fun s m =>
    match m.group 1 with
    | [c] =>
      if (protectable d).contains c then
        .accept (.node (.text (Escaped.write c)) m.before m.after) s
      else .accept (.skip m.stop) s
    | _ => .reject

/-- Breaks of lines. -/
def lineBreak : Rule := Rule.ofPattern (Pattern.str "  \n") fun _ _ => .element (.node "br" [])

/-- Moves HTML into the stash; its placeholder is a node. -/
def keepHtml (s : State) (html : Text) (m : Match) : Verdict :=
  let (placeholder, stash) := s.stash.store (.html html)
  .accept (.node (.text placeholder) m.before m.after) { s with stash := stash }

open Pattern in
/-- An attribute of a tag, with the blanks in front of it. A bare value holds no quotation mark. -/
def tagAttribute : Pattern :=
  let blank := Pattern.one Text.isBlank
  let free := fun (s : String) => Pattern.one fun c => !Text.isBlank c && !s.toList.contains c
  let quoted := fun (q : Char) => Pattern.seqs [char q, star (other q), char q]
  seqs [plus blank, plus (free "\x22\x27<>/="),
    opt (seqs [star blank, char '=', star blank,
      alts [quoted Text.quote, quoted Text.apostrophe, plus (free "\x22\x27=<>\x60")]])]

open Pattern in
/-- A tag, a comment, an instruction or a section of data. -/
def tagPattern : Pattern :=
  let blank := Pattern.one Text.isBlank
  let name := fun (c : Char) => !Text.isBlank c && !"<>@\x22\x27=\x60".toList.contains c
  alts
    [seqs [char '<', opt (char '/'), .one Text.isLetter, star (.one name), star tagAttribute,
        star blank, opt (char '/'), char '>'],
      seqs [str "<!--", star (.seq (.ahead false (.alt (str "<!--") (str "-->"))) any), str "-->"],
      seqs [str "<?", starLazy any, str "?>"],
      seqs [str "<![CDATA[", starLazy any, str "]]>"]]

/-- Tags and the like. They are written as they were: what was taken out of them is put back. -/
def tag : Rule := Rule.ofMatches tagPattern fun s m =>
  keepHtml s (Escaped.read (s.nodes.source m.text)) m

open Pattern in
/-- An entity. -/
def entityPattern : Pattern :=
  let digit := Pattern.one Text.isDigit
  let hexDigit := Pattern.one fun c => Text.isDigit c || "abcdefABCDEF".toList.contains c
  seqs [char '&',
    alts [seqs [char '#', plus digit], seqs [str "#x", plus hexDigit],
      plus (.one fun c => Text.isDigit c || Text.isLetter c)],
    char ';']

/-- Entities. -/
def entity : Rule := Rule.ofMatches entityPattern fun s m =>
  keepHtml s (Escaped.read (s.nodes.source m.text)) m

open Pattern in
/-- An address of any scheme between angle brackets, captured as 1. -/
def addressPattern : Pattern :=
  let inScheme := fun (c : Char) => Text.isLetter c || Text.isDigit c || "+.-".toList.contains c
  seqs [char '<',
    .capture 1 (seqs [.one Text.isLetter, star (.one inScheme), str "://", star (noneOf "<>")]),
    char '>']

/-- Addresses. -/
def address : Rule := Rule.ofPattern addressPattern fun s m =>
  .element
    { tag := "a".toList, attributes := [("href".toList, some (s.nodes.plain (m.group 1)))]
      text := some (m.group 1), literal := true }

open Pattern in
/-- A mail address between angle brackets, captured as 1. -/
def mailPattern : Pattern :=
  seqs [char '<', .capture 1 (seqs [plus (noneOf "<> !"), char '@', plus (noneOf "@<> ")]), char '>']

/-- A character as a numeric entity that no serializer touches. -/
def numeric (c : Char) : Text := Stash.ampersand ++ '#' :: Text.decimal c.toNat ++ [';']

/-- A character as an entity, by its name if it has one. -/
def entityOf (c : Char) : Text :=
  match nameOf? c.toNat with
  | some name => Stash.ampersand ++ name ++ [';']
  | none => numeric c

/-- Mail addresses, written in entities. -/
def mail : Rule := Rule.ofPattern mailPattern fun s m =>
  let t := s.nodes.plain (m.group 1)
  let scheme := "mailto:".toList
  let t := (Text.after? scheme t).getD t
  .element
    { tag := "a".toList, attributes := [("href".toList, some ((scheme ++ t).flatMap numeric))]
      text := some (t.flatMap entityOf), literal := true }

end MathPage.Markdown.Inline
