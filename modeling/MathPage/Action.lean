import MathPage.Failure

/-!
# Actions and their hosts

An action changes a state and either gives a result or fails; what it did to the state before it
failed stays done. The outside – an equation renderer and a logger – is a value of an arbitrary type
`ω`, and a `Host` says how it answers, so that a renderer may keep a count and a logger may refuse a
message.

* `Action σ α` – with the usual sequencing, and `Action.attempt`, which turns a failure into a
  result;
* `Host ω` – the renderer and the logger;
* `Severity` – the levels of log messages.
-/

namespace MathPage

/-- Changes a state and gives a result or fails. -/
def Action (σ α : Type) : Type := σ → Except Failure α × σ

namespace Action

variable {σ τ α β : Type}

/-- Runs an action. -/
def run (a : Action σ α) (s : σ) : Except Failure α × σ := a s

/-- Gives a result and changes nothing. -/
def result (x : α) : Action σ α := fun s => (.ok x, s)

/-- Fails and changes nothing. -/
def fail (f : Failure) : Action σ α := fun s => (.error f, s)

/-- Goes on with the result of an action, if there is one. -/
def andThen (a : Action σ α) (k : α → Action σ β) : Action σ β := fun s =>
  match a s with
  | (.ok x, s') => k x s'
  | (.error f, s') => (.error f, s')

instance : Monad (Action σ) where
  pure := result
  bind := andThen

/-- The result of a computation that may fail. -/
def ofExcept (e : Except Failure α) : Action σ α := fun s => (e, s)

/-- Gives the outcome of an action, also if it failed. What ends the program is no failure, and no
action can hold on to it. -/
def attempt (a : Action σ α) : Action σ (Except Failure α) := fun s =>
  let (r, s') := a s
  (.ok r, s')

/-- An action inside a generator or a coroutine, seen from outside. -/
def inside (b : Boundary) (a : Action σ α) : Action σ α := fun s =>
  let (r, s') := a s
  (r.mapError (Failure.beyond b), s')

/-- The present state. -/
def state : Action σ σ := fun s => (.ok s, s)

/-- An action on a part of the state. -/
def onPart (get : σ → τ) (set : τ → σ → σ) (a : Action τ α) : Action σ α := fun s =>
  let (r, t) := a (get s)
  (r, set t s)

end Action

/-- The level of a log message. -/
inductive Severity where
  | debug
  | warning
  | error
  deriving DecidableEq, Repr

/-- The attributes of an equation. -/
structure Equation where
  label : Text
  alt : Text
  raw : Text
  deriving DecidableEq, Repr

/-- How the outside answers: the renderer gives the HTML of an equation, or nothing; the logger
takes a message. Either may fail. -/
structure Host (ω : Type) where
  render : Equation → Action ω (Option Text)
  log : Severity → Text → Action ω Unit

end MathPage
