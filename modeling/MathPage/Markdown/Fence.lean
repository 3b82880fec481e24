import MathPage.Markdown.Attributes
import MathPage.Document.Markup
import MathPage.Document.Stash
import MathPage.Failure

/-!
# Fenced code

Code may stand between two fences, lines of at least three tildes or marks of code; the closing
fence is the same as the opening one. Behind the opening fence stand the language, or an attribute
list whose first class is the language.

* `Fence.block` – a fenced block of code;
* `Fence.element` – its HTML;
* `Fence.extract` – moves all fenced code of a text into the stash.
-/

namespace MathPage.Markdown.Fence

open Pattern in
/-- A fenced block of code: the fence is captured as 1, the attribute list as 2, the language as 3,
the numbers of lines to stress as 5 and the code as 6. -/
def block : Pattern :=
  let spaces := star (char ' ')
  seqs [lineStart,
    .capture 1 (.alt (.many true 3 none (char '~')) (.many true 3 none (char Text.tick))), spaces,
    .alt (seqs [str "\x7b", .capture 2 (star (other '\n')), str "\x7d"])
      (.seq
        (opt (seqs [opt (char '.'),
          .capture 3 (star (.one fun c => Text.isWord c || "#.+-".toList.contains c)), spaces]))
        (opt (seqs [str "hl_lines=", .capture 4 (oneOf "\"'"), .capture 5 (starLazy any), .same 4,
          spaces]))),
    char '\n', .capture 6 (starLazy any), .previous fun o => o.any (· == '\n'), .same 1, spaces,
    lineEnd]

/-- What a further attribute of fenced code is set to. -/
inductive Setting where
  | value (t : Text)
  /-- on, off or neither -/
  | switch (o : Option Bool)

/-- What stands behind an opening fence. -/
structure Info where
  id : Text := []
  classes : List Text := []
  /-- further attributes of the code, in order -/
  settings : List (Text × Setting) := []

/-- Whether digits stand between single underscores. -/
def isGrouped (t : Text) : Bool :=
  (Text.splitChar '_' t).all fun u => !u.isEmpty && u.all Text.isDigit

/-- The number that a word stands for: digits, perhaps in groups between underscores, with or without
a sign. -/
def number? (word : Text) : Option Int :=
  let read := fun (t : Text) =>
    if isGrouped t then some (Text.ofDigits 0 (t.filter Text.isDigit)) else none
  match word with
  | '-' :: t => (read t).map fun n => -n
  | '+' :: t => (read t).map fun n => n
  | t => (read t).map fun n => n

/-- The numbers of the lines to stress, as they are written into the page: none if one of them is no
number. -/
def lineNumbers (t : Text) : Text :=
  let words := (Text.splitChar ' ' (t.map fun c => if Text.isBlank c then ' ' else c)).filter
    (!·.isEmpty)
  let numbers := words.mapM number?
  '[' :: Text.join ", ".toList ((numbers.getD []).map Value.integer) ++ [']']

/-- The setting of the lines to stress. -/
def stressed : Text := "hl_lines".toList

/-- The setting that hands the code to a highlighter; it is not written. -/
def highlighter : Text := "use_pygments".toList

/-- The settings that are switches. -/
def switches : List Text :=
  [highlighter, "linenums".toList, "guess_lang".toList, "noclasses".toList]

/-- What the value of a switch says. -/
def switch (t : Text) : Option Bool :=
  let t := Text.lower t
  if ["true", "yes", "y", "on", "1"].any (·.toList == t) then some true
  else if ["false", "no", "n", "off", "0"].any (·.toList == t) then some false
  else none

/-- Adds a further attribute. -/
def Info.put (i : Info) (key value : Text) : Info :=
  if key = "id".toList then { i with id := value }
  else
    let setting :=
      if key = stressed then Setting.value (lineNumbers value)
      else if switches.contains key then .switch (switch value)
      else .value value
    { i with settings := Element.putEntry key setting i.settings }

/-- Adds an entry of an attribute list; a bare word has its own name as value. -/
def Info.add (i : Info) : Attributes.Entry → Info
  | .addClass c => { i with classes := i.classes ++ [c] }
  | .set key value => i.put key value
  | .bare key => i.put key key

/-- Whether the code is handed to a highlighter. -/
def Info.isHighlighted (i : Info) : Bool :=
  i.settings.any fun (key, setting) =>
    match setting with
    | .switch (some b) => key == highlighter && b
    | _ => false

/-- An attribute, unless its value is empty. -/
def field (name : String) (value : Text) : Text :=
  if value.isEmpty then [] else Markup.field (name.toList, some value)

/-- The further attributes as they are written; a switch cannot be. -/
def fields : List (Text × Setting) → Except MarkupFault Text
  | [] => .ok []
  | (key, setting) :: rest =>
    if key = highlighter then fields rest
    else
      match setting with
      | .switch o => .error (.hiddenSwitch o)
      | .value t => (fields rest).map (Markup.field (Attributes.cleanName key, some t) ++ ·)

/-- A character of fenced code. -/
def escapeChar (c : Char) : Text :=
  if c = '&' then "&amp;".toList
  else if c = '<' then "&lt;".toList
  else if c = '>' then "&gt;".toList
  else if c = Text.quote then "&quot;".toList
  else [c]

/-- The HTML of fenced code. The first class is the language and belongs to the code; the others
belong to the block. Code that is handed to a highlighter has no further attributes. -/
def element (i : Info) (code : Text) : Except MarkupFault Text := do
  let language := match i.classes with
    | [] | [] :: _ => []
    | l :: _ => "language-".toList ++ l
  let further ← if i.isHighlighted then .ok [] else fields i.settings
  return "<pre".toList ++ field "id" i.id ++ field "class" (Text.join [' '] (i.classes.drop 1)) ++
    "><code".toList ++ field "class" language ++ further ++ ['>'] ++ code.flatMap escapeChar ++
    "</code></pre>".toList

/-- What stands behind the opening fence of a match; nothing if its attribute list cannot be read
to its end. -/
def info? (m : Match) : Option Info :=
  match m.group? 2 with
  | some (c :: cs) =>
    let (es, left) := Attributes.read (c :: cs)
    if left.isEmpty then some (es.foldl Info.add {}) else none
  | _ =>
    let language := m.group 3
    some
      { classes := if language.isEmpty then [] else [language]
        settings :=
          if (m.group 5).isEmpty then [] else [(stressed, .value (lineNumbers (m.group 5)))] }

/-- Moves fenced code from a position on into the stash. -/
def extractFuel : Nat → Nat → Text → Stash → Except MarkupFault (Text × Stash)
  | 0, _, t, s => .ok (t, s)
  | fuel + 1, pos, t, s =>
    match block.findFrom? pos t with
    | none => .ok (t, s)
    | some m =>
      match info? m with
      | none => extractFuel fuel (m.start + (m.group 1).length + 1 + (m.group 2).length) t s
      | some i => do
        let html ← element i (m.group 6)
        let (placeholder, s) := s.store (.html html)
        extractFuel fuel (m.start + 1 + placeholder.length)
          (m.before ++ '\n' :: placeholder ++ '\n' :: m.after) s

/-- Moves all fenced code of a text into the stash. -/
def extract (t : Text) (s : Stash) : Except MarkupFault (Text × Stash) :=
  extractFuel (t.length + 1) 0 t s

end MathPage.Markdown.Fence
