import MathPage.Action

/-!
# Equation markers

An equation stands between two HTML comments. The start marker carries its attributes:

    <!-- <equation label="..." alt="..." raw="..."> -->
    <!-- </equation> -->

* `Marker.isStart`, `Marker.isEnd` – the two kinds of comments;
* `Marker.scan` – the value of one attribute: the literal `name="`, then everything up to the next
  quotation mark, without escapes;
* `Marker.attributes` – all three attributes, or the first fault in the order label, alt, raw;
* `Marker.read` – the same, with a report to the logger;
* `Marker.start`, `Marker.stop` – the written form of the markers.
-/

namespace MathPage.Marker

/-- What a start marker opens with. -/
def opener : Text := "<!-- <equation".toList

/-- What a start marker closes with. -/
def closer : Text := "> -->".toList

/-- The end marker. -/
def stop : Text := "<!-- </equation> -->".toList

/-- An attribute as it is written. -/
def field (name : String) (value : Text) : Text :=
  ' ' :: name.toList ++ ['=', Text.quote] ++ value ++ [Text.quote]

/-- The start marker of an equation. -/
def start (e : Equation) : Text :=
  opener ++ field "label" e.label ++ field "alt" e.alt ++ field "raw" e.raw ++ closer

/-- Whether a text opens with a start marker: its opening and, on the same line, its closing. -/
def startsHere (t : Text) : Bool :=
  match Text.after? opener t with
  | some rest => Text.occurs closer (rest.takeWhile (· != '\n'))
  | none => false

/-- Whether a text holds a start marker. -/
def isStart : Text → Bool
  | [] => false
  | c :: t => startsHere (c :: t) || isStart t

/-- Whether a text is the end marker, up to blanks around it. -/
def isEnd (t : Text) : Bool := Text.strip t == stop

/-- The value of the first attribute of the given name. -/
def scan (name t : Text) : Except AttributeFault Text :=
  match Text.cutAt? (name ++ ['=', Text.quote]) t with
  | none => .error .missing
  | some (_, rest) =>
    match Text.cutAt? [Text.quote] rest with
    | none => .error .unterminated
    | some (value, _) => .ok value

/-- A failure of the start marker `t`. -/
def refuse (name t : Text) (fault : AttributeFault) : Failure := .marker name t fault

/-- The value of an attribute of the start marker `t`, as a failure if there is none. -/
def value (name t : Text) : Except Failure Text := (scan name t).mapError (refuse name t)

/-- The value of an attribute that must not be empty. -/
def required (name t : Text) : Except Failure Text :=
  match value name t with
  | .ok [] => .error (refuse name t .empty)
  | r => r

/-- The attributes of a start marker. -/
def attributes (t : Text) : Except Failure Equation := do
  let label ← required "label".toList t
  let alt ← value "alt".toList t
  let raw ← required "raw".toList t
  return ⟨label, alt, raw⟩

variable {ω : Type}

/-- Reads the attributes and reports them. -/
def read (h : Host ω) (t : Text) : Action ω Equation :=
  match attributes t with
  | .error f => do
    h.log .debug ("Invalid node: ".toList ++ t)
    Action.fail f
  | .ok e => do
    h.log .debug ("Label: ".toList ++ e.label)
    h.log .debug ("Alternate text: ".toList ++ e.alt)
    h.log .debug ("Raw equation: ".toList ++ e.raw)
    return e

end MathPage.Marker
