import MathPage.Action

/-!
# Completions

A conversion ends with one outcome, which is delivered once.

* `Outcome` – a failure, or the page, or the place it was written to;
* `Completion.settle` – delivers an outcome, or fails if one has been delivered.
-/

namespace MathPage

/-- How a conversion ended: with a failure, with the page, or with the place it was written to. -/
structure Outcome where
  error : Option Failure := none
  html : Option Text := none
  out : Option Path := none

/-- Whether a conversion succeeded. -/
def Outcome.ok (o : Outcome) : Bool := o.error.isNone

/-- The page of an outcome, or its failure. -/
def Outcome.unwrap (o : Outcome) : Except Failure (Option Text) :=
  match o.error with
  | some f => .error f
  | none => .ok o.html

/-- The delivery point of a conversion. -/
structure Completion where
  result : Option Outcome := none

namespace Completion

/-- Whether an outcome has been delivered. -/
def settled (c : Completion) : Bool := c.result.isSome

/-- Delivers an outcome. A second delivery fails and changes nothing. -/
def settle (o : Outcome) : Action Completion Outcome := fun c =>
  match c.result with
  | some _ => (.error .delivered, c)
  | none => (.ok o, ⟨some o⟩)

/-- Delivers a failure. -/
def fail (f : Failure) : Action Completion Outcome := settle { error := some f }

/-- Delivers a page or the place it was written to. -/
def succeed (html : Option Text) (out : Option Path) : Action Completion Outcome :=
  settle { html := html, out := out }

end Completion

end MathPage
