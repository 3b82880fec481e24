import MathPage.Conversion.Completion
import MathPage.Conversion.Drive
import MathPage.Markdown.Convert
import MathPage.Page.Render

/-!
# Conversions

A conversion reads a file, converts it, puts it on a page unless a fragment is wanted, and delivers
the page or writes it to a file. Its arguments are checked before anything is read; what goes wrong
later is reported to the logger and delivered, not raised.

* `Job.prepare` – the checks, and the places that the paths lead to;
* `Job.run` – reading, converting, rendering and writing;
* `Conversion.start` – one conversion; `Conversion.pair` – two at the same time;
* `Conversion.call` – one conversion whose outcome is handed to a callback as well.
-/

namespace MathPage

/-- The files, and everything beside them. -/
structure World (ω : Type) where
  drive : Drive
  outside : ω

/-- The stages of a conversion that can fail. -/
inductive Stage where
  | reading
  | converting
  | rendering
  | writing
  deriving DecidableEq, Repr

/-- What a stage does, as its report says it. -/
def Stage.activity : Stage → Text
  | .reading => "attempting to read file".toList
  | .converting => "converting file content to HTML".toList
  | .rendering => "rendering HTML page".toList
  | .writing => "writing to file".toList

/-- What is to be converted: the place of the source, the place to write to, if one is given, and
the options. -/
structure Job where
  source : Place
  destination : Option Place
  options : Options

namespace Job

variable {ω : Type}

/-! ### Checks -/

/-- The path that a file argument stands for. -/
def filePath? : Value → Option Path
  | .text t => some (Path.ofText t)
  | .path p => some p
  | _ => none

/-- Whether a path can lead anywhere: no name holds a null character. Names are texts, so each of them
has an encoding as the name of a file. -/
def isProper (p : Path) : Bool := p.names.all fun n => !n.contains '\x00'

/-- The place that a path leads to; `shown` is the path as it was given. -/
def locate (current : Place) (shown : Value) (p : Path) : Except Failure Place :=
  if isProper p then .ok (p.resolve current) else .error (.usage (.nullInPath shown))

/-- A destination as a value. -/
def destinationValue : Text ⊕ Path → Value
  | .inl t => .text t
  | .inr p => .path p

/-- A destination as a path. -/
def destinationPath : Text ⊕ Path → Path
  | .inl t => Path.ofText t
  | .inr p => p

/-- The place to write to. -/
def locateDestination (h : Host ω) (current : Place) (o : Options) : Action ω (Option Place) :=
  match o.destination? with
  | none => return none
  | some d => do
    let place ← Action.ofExcept (locate current (destinationValue d) (destinationPath d))
    h.log .debug ("Destination filepath: ".toList ++ place.toText)
    return some place

/-- Checks the arguments of a conversion; `options` is what was read of the options argument. -/
def prepare (h : Host ω) (current : Place) (file : Value)
    (options : Except Options.Refusal Options) : Action ω Job :=
  match filePath? file with
  | none => Action.fail (.usage (.notFile file))
  | some path =>
    match options with
    | .error r => Action.fail (.usage (.options r))
    | .ok o => do
      h.log .debug ("Current working directory: ".toList ++ current.toText)
      let source ← Action.ofExcept (locate current file path)
      h.log .debug ("Source filepath: ".toList ++ source.toText)
      let destination ← locateDestination h current o
      return ⟨source, destination, o⟩

/-! ### Stages -/

/-- An action outside the files. -/
def outside {α : Type} (a : Action ω α) : Action (World ω) α :=
  a.onPart World.outside fun w world => { world with outside := w }

/-- A debug message. -/
def note (h : Host ω) (t : String) : Action (World ω) Unit := outside (h.log .debug t.toList)

/-- Delivers an outcome at a delivery point of its own. -/
def deliver (a : Action Completion Outcome) : Action (World ω) Outcome := fun w => ((a {}).1, w)

/-- Reports the failure of a stage and delivers it. -/
def failed (h : Host ω) (stage : Stage) (f : Failure) : Action (World ω) Outcome := do
  outside (h.log .error
    ("Encountered an error when ".toList ++ stage.activity ++ ": ".toList ++ f.message))
  deliver (Completion.fail f)

/-- The text of the source. -/
def source? (j : Job) : Action (World ω) (Except Failure Text) := fun w =>
  (.ok (w.drive.readText j.source), w)

/-- Writes a page to the destination. A page is a text and has an encoding, so that only the files can
refuse it. -/
def write? (page : Text) (place : Place) : Action (World ω) (Except Failure Unit) := fun w =>
  match w.drive.write place (Utf8.encode page) with
  | .ok d => (.ok (.ok ()), { w with drive := d })
  | .error f => (.ok (.error f), w)

/-- Reads the source. -/
def read (h : Host ω) (j : Job) : Action (World ω) (Except Failure Text) := do
  note h "Reading file..."
  j.source?

/-- Reports how reading went; a failure is delivered. -/
def loaded (h : Host ω) (r : Except Failure Text) : Action (World ω) (Except Outcome Text) :=
  match r with
  | .error f => return .error (← failed h .reading f)
  | .ok t => do
    note h "Successfully read file."
    return .ok t

/-- Converts a text; a failure is delivered. -/
def fragment (h : Host ω) (t : Text) : Action (World ω) (Except Outcome Text) := do
  note h "Converting file content to HTML..."
  match ← (outside (Markdown.render h t)).attempt with
  | .error f => return .error (← failed h .converting f)
  | .ok html =>
    note h "Successfully converted file content to HTML."
    return .ok html

/-- Puts converted text on a page, unless a fragment is wanted; a failure is delivered. -/
def page (h : Host ω) (o : Options) (html : Text) : Action (World ω) (Except Outcome Text) :=
  if o.fragment then return .ok html
  else do
    match ← (outside (Page.render h (View.ofOptions o html))).attempt with
    | .error f => return .error (← failed h .rendering f)
    | .ok t => return .ok t

/-- Delivers a page, or writes it and delivers its place. What `write?` fails with is a fault of the
files, and is delivered. -/
def store (h : Host ω) (destination : Option Place) (t : Text) : Action (World ω) Outcome :=
  match destination with
  | none => deliver (Completion.succeed (some t) none)
  | some place => do
    note h "Writing to file..."
    match ← write? t place with
    | .error f => failed h .writing f
    | .ok () =>
      note h "Successfully wrote to file."
      deliver (Completion.succeed none (some (Path.ofPlace place)))

/-- Goes on from a result, unless an outcome has been delivered. -/
def unlessDelivered {α : Type} (r : Except Outcome α) (k : α → Action (World ω) Outcome) :
    Action (World ω) Outcome :=
  match r with
  | .error o => return o
  | .ok x => k x

/-- Converts, renders and stores what was read. -/
def finish (h : Host ω) (j : Job) (r : Except Failure Text) : Action (World ω) Outcome := do
  unlessDelivered (← loaded h r) fun t => do
    unlessDelivered (← fragment h t) fun html => do
      unlessDelivered (← page h j.options html) (store h j.destination)

/-- The stages of a conversion whose arguments have been checked. -/
def stages (h : Host ω) (j : Job) : Action (World ω) Outcome := do
  j.finish h (← j.read h)

/-- Runs a conversion whose arguments have been checked, as a coroutine. -/
def run (h : Host ω) (j : Job) : Action (World ω) Outcome := (j.stages h).inside .coroutine

end Job

/-! ### Ways to start a conversion -/

namespace Conversion

variable {ω : Type}

/-- A function that takes the error and the page of an outcome. -/
abbrev Callback (ω : Type) := Option Failure → Option Text → Action ω Unit

/-- An argument that may be a function. -/
inductive Argument (ω : Type) where
  | value (v : Value)
  | function (f : Callback ω)

/-- The options that an argument stands for. -/
def Argument.options : Argument ω → Except Options.Refusal Options
  | .value v => Options.read v
  | .function _ => .error .function

/-- Checks the arguments and runs the conversion. -/
def begin (h : Host ω) (current : Place) (file : Value)
    (options : Except Options.Refusal Options) : Action (World ω) Outcome := do
  let j ← Job.outside (Job.prepare h current file options)
  j.run h

/-- One conversion. -/
def start (h : Host ω) (current : Place) (file options : Value) : Action (World ω) Outcome :=
  begin h current file (Options.read options)

/-- Two conversions of the same file at the same time: both are checked, then both files are read,
before the first of them goes on. -/
def pair (h : Host ω) (current : Place) (file options : Value) :
    Action (World ω) (Outcome × Outcome) := do
  let i ← Job.outside (Job.prepare h current file (Options.read options))
  let j ← Job.outside (Job.prepare h current file (Options.read options))
  let first ← (i.read h).inside .coroutine
  let second ← (j.read h).inside .coroutine
  let a ← (i.finish h first).inside .coroutine
  let b ← (j.finish h second).inside .coroutine
  return (a, b)

/-- The options and the callback among the second and the third argument: a function in place of the
options is the callback, if there is no other. -/
def arguments (options callback : Argument ω) :
    Except UsageFault (Except Options.Refusal Options × Option (Callback ω)) :=
  match options, callback with
  | .function f, .value .none => .ok (.ok {}, some f)
  | o, .value .none => .ok (o.options, none)
  | _, .value v => .error (.notCallback v)
  | o, .function f => .ok (o.options, some f)

/-- A conversion whose outcome is handed to the callback, if there is one, before it is returned. -/
def call (h : Host ω) (current : Place) (file : Value) (options callback : Argument ω) :
    Action (World ω) Outcome :=
  match arguments options callback with
  | .error f => Action.fail (.usage f)
  | .ok (o, k) => do
    let outcome ← begin h current file o
    match k with
    | none => return outcome
    | some f =>
      Job.outside (f outcome.error outcome.html)
      return outcome

end Conversion

end MathPage
