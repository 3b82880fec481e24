import MathPage.Markdown.Inline.Rule

/-!
# Links and images

A link is a text in brackets with a destination: an address in parentheses, perhaps with a title, or
a name in brackets that the document defines, or nothing if the text itself is such a name. With an
exclamation mark in front it is an image.

* `bracketed?` – the text up to the bracket that closes;
* `destination?` – an address and a title in parentheses, which may hold further parentheses;
* `link`, `referenced`, `named` – the rules for the three kinds of destinations.
-/

namespace MathPage.Markdown.Inline

/-- Whether a rule looks for links or for images. -/
inductive Kind where
  | link
  | image
  deriving DecidableEq

/-- The text up to the closing bracket, with `depth` further brackets open, and what is behind. -/
def bracketed? : Nat → Text → Option (Text × Text)
  | _, [] => none
  | depth, c :: t =>
    if c = ']' && depth = 0 then some ([], t)
    else
      let depth := if c = ']' then depth - 1 else if c = '[' then depth + 1 else depth
      (bracketed? depth t).map fun (a, b) => (c :: a, b)

/-- An address with a title, and what is behind. -/
structure Destination where
  address : Text
  title : Option Text
  rest : Text

/-- A title between quotation marks of one kind, and what is behind it and the blanks that
follow. -/
def quotedTitle? (t : Text) : Option (Text × Text) :=
  match t with
  | [] => none
  | q :: t =>
    if q = Text.quote || q = Text.apostrophe then
      (Text.cutAt? [q] t).map fun (title, rest) => (title, rest.dropWhile Text.isBlank)
    else none

/-- An address between angle brackets, with or without a title. -/
def angled? (t : Text) : Option Destination :=
  match t with
  | '<' :: t =>
    let a := t.takeWhile fun c => c != '<' && c != '>'
    match t.drop a.length with
    | '>' :: t =>
      let t := t.dropWhile Text.isBlank
      match quotedTitle? t, t with
      | some (title, ')' :: rest), _ => some ⟨Text.strip a, some title, rest⟩
      | none, ')' :: rest => some ⟨Text.strip a, none, rest⟩
      | _, _ => none
    | _ => none
  | _ => none

/-- A quotation mark and the positions behind its first and its latest occurrence. -/
structure Quotation where
  mark : Char
  start : Nat
  stop : Option Nat := none

/-- How far the search for the closing parenthesis has come. -/
structure Search where
  /-- parentheses still open -/
  depth : Nat := 1
  /-- parentheses still open if the quotation marks mean nothing -/
  bareDepth : Nat := 1
  /-- the end if the quotation marks mean nothing -/
  bareEnd : Option Nat := none
  first : Option Quotation := none
  second : Option Quotation := none
  /-- the latest character that is no space -/
  latest : Option Char := none

namespace Search

/-- Whether a quotation has just been closed. -/
def justClosed (s : Search) (q : Option Quotation) : Bool :=
  match q with
  | some q => q.stop.isSome && s.latest == some q.mark
  | none => false

/-- Adds a quotation mark at a position. -/
def quote (s : Search) (c : Char) (i : Nat) : Search :=
  match s.first with
  | none => { s with first := some ⟨c, i + 1, none⟩, bareDepth := s.depth, depth := 1 }
  | some q =>
    if c = q.mark then { s with first := some { q with stop := some (i + 1) } }
    else
      match s.second with
      | none => { s with second := some ⟨c, i + 1, none⟩ }
      | some r => { s with second := some { r with stop := some (i + 1) } }

/-- Adds a character at a position. -/
def step (s : Search) (c : Char) (i : Nat) : Search :=
  if c = '(' then
    if s.first.isNone then { s with depth := s.depth + 1 }
    else { s with bareDepth := s.bareDepth - 1 }
  else if c = ')' then
    if s.justClosed s.first || s.justClosed s.second then { s with depth := 0 }
    else if s.first.isNone then { s with depth := s.depth - 1 }
    else if s.bareDepth = 0 then s
    else
      { s with
        bareDepth := s.bareDepth - 1
        bareEnd := if s.bareDepth = 1 then some (i + 1) else s.bareEnd }
  else if c = Text.quote || c = Text.apostrophe then s.quote c i
  else s

/-- Searches a text, beginning at a position; gives the position behind the last character that was
looked at. -/
def run (s : Search) (i : Nat) : Text → Search × Nat
  | [] => (s, i)
  | c :: t =>
    let s := s.step c i
    if s.depth = 0 then (s, i + 1)
    else run (if c = ' ' then s else { s with latest := some c }) (i + 1) t

/-- The end of the destination: where the parenthesis closes or, failing that, where it closes if
quotation marks mean nothing. If all parentheses are balanced by opening ones in a title that never
ends, it is in front of the last character. -/
def stop? (s : Search) (i : Nat) : Option Nat :=
  if s.depth = 0 then some i
  else if s.bareDepth = 0 then some (s.bareEnd.getD (i - 1))
  else none

/-- The part of a text between two positions. -/
def slice (t : Text) (a b : Nat) : Text := (t.take b).drop a

/-- The address and the title in a text, given where the destination ends. -/
def split (s : Search) (t : Text) (stop : Nat) : Text × Option Text :=
  let titled := fun (q : Option Quotation) =>
    match q with
    | some ⟨mark, start, some stop⟩ =>
      if s.latest = some mark then some (slice t 0 (start - 1), some (slice t start (stop - 1)))
      else none
    | _ => none
  ((titled s.first).orElse fun _ => titled s.second).getD (slice t 0 (stop - 1), none)

end Search

/-- An address and a title in parentheses. -/
def destination? (t : Text) : Option Destination :=
  match t with
  | '(' :: t =>
    let t := t.dropWhile Text.isBlank
    match angled? t with
    | some d => some d
    | none =>
      let (s, i) := Search.run {} 0 t
      (s.stop? i).map fun stop =>
        let (address, title) := s.split t stop
        ⟨address, title, t.drop stop⟩
  | _ => none

/-- A text without the quotation marks around it. -/
def dequote (t : Text) : Text :=
  let around := fun (q : Char) => t.head? == some q && t.getLast? == some q
  if around Text.quote || around Text.apostrophe then (t.drop 1).dropLast else t

/-- A title on one line and without quotation marks around it. -/
def cleanTitle (ns : Nodes) (t : Text) : Text :=
  (dequote (ns.plain (Text.strip t))).map fun c => if Text.isBlank c then ' ' else c

/-- An attribute that is given. -/
def given (name : String) (o : Option Text) : List (Text × Option Text) :=
  (o.map fun t => (name.toList, some t)).toList

/-- The element of a link or of an image. -/
def element (ns : Nodes) (kind : Kind) (t address : Text) (title : Option Text) : Element :=
  match kind with
  | .link =>
    { tag := "a".toList, attributes := ("href".toList, some address) :: given "title" title
      text := some t }
  | .image =>
    { tag := "img".toList
      attributes := ("src".toList, some address) :: given "title" title ++
        [("alt".toList, some (ns.plain t))] }

open Pattern in
/-- What opens a link or an image. -/
def opener : Kind → Pattern
  | .link => .seq (.previous fun o => o != some '!') (char '[')
  | .image => str "!["

/-- Links and images with a destination in parentheses. -/
def link (kind : Kind) : Rule := Rule.ofMatches (opener kind) fun s m =>
  match bracketed? 0 m.after with
  | none => .reject
  | some (t, rest) =>
    match destination? rest with
    | none => .reject
    | some d =>
      let title := d.title.map (cleanTitle s.nodes)
      let address := Text.strip (s.nodes.plain d.address)
      .accept (.node (.element (element s.nodes kind t address title)) m.before d.rest) s

/-- A name with single spaces for its blanks. -/
def collapse : Bool → Text → Text
  | _, [] => []
  | inBlanks, c :: t =>
    if Text.isBlank c then (if inBlanks then [] else [' ']) ++ collapse true t
    else c :: collapse false t

/-- A link or an image with the destination that a name stands for; a name without a meaning is
passed over. -/
def refer (defs : Definitions) (kind : Kind) (s : State) (m : Match) (t name rest : Text) :
    Verdict :=
  match defs.target? (collapse false (Text.lower name)) with
  | some target =>
    .accept (.node (.element (element s.nodes kind t target.address target.title)) m.before rest) s
  | none => .accept (.skip (m.stop + (m.after.length - rest.length))) s

/-- Links and images with a name in further brackets; without a name the text is the name. -/
def referenced (defs : Definitions) (kind : Kind) : Rule := Rule.ofMatches (opener kind) fun s m =>
  match bracketed? 0 m.after with
  | none => .reject
  | some (t, rest) =>
    let rest := match rest with
      | c :: '[' :: u => if Text.isBlank c then '[' :: u else rest
      | _ => rest
    match rest with
    | '[' :: u =>
      match Text.cutAt? [']'] u with
      | some (name, rest) => refer defs kind s m t (if name.isEmpty then t else name) rest
      | none => .reject
    | _ => .reject

/-- Links and images whose text is a name. -/
def named (defs : Definitions) (kind : Kind) : Rule := Rule.ofMatches (opener kind) fun s m =>
  match bracketed? 0 m.after with
  | none => .reject
  | some (t, rest) => refer defs kind s m t t rest

end MathPage.Markdown.Inline
