import MathPage.Equation.Marker
import MathPage.Document.Stash

/-!
# The equation pass

Every pair of equation markers among the children of an element gets a freshly rendered image
between its two comments: a new paragraph is inserted if the markers are neighbours, and what stands
between them is replaced if it is a single element.

* `Edit` – what happens at one place of a list of siblings, and `Edit.apply`;
* `Pass.scan` – the edits of one list of siblings, up to the first failure;
* `Pass.element`, `Pass.siblings` – the same for all lists in a tree, in document order; what was
  inside a replaced element is still visited, although its result is dropped;
* `Pass.run` – the whole pass with its closing report.

A pass that fails leaves what it did before: the edits made so far are applied and everything from
the failing start marker on stays as it was. The lists of a tree are worked on one after the other by
a generator, which a failure has to leave (`Failure.beyond`); a list on its own is not.
-/

namespace MathPage

/-- What happens at one place of a list of siblings. -/
inductive Edit where
  | keep
  | insert (e : Element)
  | replace (e : Element)

/-- Applies edits from left to right; siblings beyond the last edit stay. -/
def Edit.apply : List Edit → List Element → List Element
  | [], es => es
  | .insert n :: edits, es => n :: Edit.apply edits es
  | .keep :: edits, e :: es => e :: Edit.apply edits es
  | .replace n :: edits, _ :: es => n :: Edit.apply edits es
  | .keep :: edits, [] => Edit.apply edits []
  | .replace _ :: edits, [] => Edit.apply edits []

namespace Pass

/-- What a pass works on beside the tree: the stash and the outside. -/
structure State (ω : Type) where
  stash : Stash
  outside : ω

/-- How far a pass has come: what it made, the number of rendered pairs, the failure that ended it,
and the state it left. -/
structure Progress (ω α : Type) where
  made : α
  count : Nat
  failure : Option Failure
  state : State ω

variable {ω α : Type}

/-- An action on the outside. -/
def outside (a : Action ω α) : Action (State ω) α :=
  a.onPart State.outside fun w s => { s with outside := w }

/-- A debug message. -/
def note (h : Host ω) (t : Text) : Action (State ω) Unit := outside (h.log .debug t)

/-- Keeps rendered HTML in the stash and gives the paragraph that stands for it. -/
def keepHtml (html : Option Text) : Action (State ω) Element := fun s =>
  let (placeholder, stash) := s.stash.store (match html with
    | some t => .html t
    | none => .nothing)
  (.ok (Element.leaf "p" placeholder), { s with stash := stash })

/-- Renders the equation of a start marker into a new paragraph. -/
def image (h : Host ω) (marker : Text) : Action (State ω) Element := do
  let equation ← outside (Marker.read h marker)
  let html ← outside (h.render equation)
  keepHtml html

/-- The start marker that an element stands for. -/
def startMarker? (s : Stash) (e : Element) : Option Text :=
  (s.value? e).filter Marker.isStart

/-- Whether an element stands for an end marker. -/
def isEndMarker (s : Stash) (e : Element) : Bool := (s.value? e).any Marker.isEnd

/-- Announces a start marker and renders its image. -/
def opened (h : Host ω) (marker : Text) : Action (State ω) Element := do
  note h "Found an equation...".toList
  image h marker

/-- Reports a start marker without its end marker. -/
def unclosed (h : Host ω) (marker : Text) : Action (State ω) Unit := do
  note h ("Invalid node: ".toList ++ marker)
  Action.fail (.block marker)

/-- Progress that a failure ended. -/
def Progress.failed (made : α) (f : Failure) (s : State ω) : Progress ω α := ⟨made, 0, some f, s⟩

/-- Puts the edits of a pair in front of the rest of the progress. -/
def Progress.pair (edits : List Edit) (p : Progress ω (List Edit)) : Progress ω (List Edit) :=
  { p with made := edits ++ p.made, count := p.count + 1 }

/-- The edits of a list of siblings. -/
def scan (h : Host ω) : List Element → State ω → Progress ω (List Edit)
  | [], s => ⟨[], 0, none, s⟩
  | e :: rest, s =>
    match startMarker? s.stash e with
    | none =>
      let p := scan h rest s
      { p with made := .keep :: p.made }
    | some marker =>
      match opened h marker s with
      | (.error f, s₁) => .failed [] f s₁
      | (.ok new, s₁) =>
        match rest with
        | [] =>
          match unclosed h marker s₁ with
          | (.error f, s₂) => .failed [] f s₂
          | (.ok _, s₂) => ⟨[], 0, none, s₂⟩
        | next :: rest₁ =>
          if isEndMarker s₁.stash next then
            match note h "Inserting new node...".toList s₁ with
            | (.error f, s₂) => .failed [] f s₂
            | (.ok _, s₂) => (scan h rest₁ s₂).pair [.keep, .insert new, .keep]
          else
            match rest₁ with
            | [] =>
              match unclosed h marker s₁ with
              | (.error f, s₂) => .failed [] f s₂
              | (.ok _, s₂) => ⟨[], 0, none, s₂⟩
            | third :: rest₂ =>
              if isEndMarker s₁.stash third then
                match note h "Replacing existing node...".toList s₁ with
                | (.error f, s₂) => .failed [] f s₂
                | (.ok _, s₂) => (scan h rest₂ s₂).pair [.keep, .replace new, .keep]
              else
                match unclosed h marker s₁ with
                | (.error f, s₂) => .failed [] f s₂
                | (.ok _, s₂) => ⟨[], 0, none, s₂⟩

/-- Works on the children of one element only. -/
def children (h : Host ω) (e : Element) (s : State ω) : Progress ω Element :=
  let p := scan h e.children s
  { p with made := { e with children := Edit.apply p.made e.children } }

mutual

/-- Works on the children of an element and on everything below it. -/
def element (h : Host ω) : Element → State ω → Progress ω Element
  | ⟨tag, attributes, text, literal, children, tail⟩, s =>
    let p := scan h children s
    let finish := fun (es : List Element) =>
      (⟨tag, attributes, text, literal, Edit.apply p.made es, tail⟩ : Element)
    match p.failure with
    | some f => ⟨finish children, p.count, some f, p.state⟩
    | none =>
      let q := siblings h children p.state
      ⟨finish q.made, p.count + q.count, q.failure, q.state⟩

/-- Works on what is below each of several elements. -/
def siblings (h : Host ω) : List Element → State ω → Progress ω (List Element)
  | [], s => ⟨[], 0, none, s⟩
  | e :: es, s =>
    let p := element h e s
    match p.failure with
    | some f => ⟨p.made :: es, p.count, some f, p.state⟩
    | none =>
      let q := siblings h es p.state
      ⟨p.made :: q.made, p.count + q.count, q.failure, q.state⟩

end

/-- The closing report, if there is anything to report. -/
def report (h : Host ω) (count : Nat) : Action (State ω) Unit :=
  if count = 0 then Action.result ()
  else note h ("Rendered ".toList ++ Text.decimal count ++ " equation(s).".toList)

/-- The pass over a whole tree. -/
def run (h : Host ω) (root : Element) (s : State ω) : Progress ω Element :=
  let p := element h root s
  match p.failure with
  | some f => { p with failure := some (f.beyond .generator) }
  | none =>
    match report h p.count p.state with
    | (.ok _, s') => { p with state := s' }
    | (.error f, s') => { p with failure := some f, state := s' }

end Pass

end MathPage
