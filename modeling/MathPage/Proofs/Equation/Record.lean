import MathPage.Proofs.Equation.Siblings

/-!
# The record of a pass

* `Pass.State.map`, `Pass.Progress.map` – a pass seen through a projection of the outside;
* `Pass.calls` – the calls of the renderer that a pass makes, in their order.

A host with more behind it does all that the host does (`run_over`), so that the record of the calls
can be read off the run of the traced host (`run_eq_traced`).
-/

namespace MathPage.Pass

variable {ω ω' α : Type} {π : ω' → ω} {h' : Host ω'} {h : Host ω}

/-- The state seen through a projection of the outside. -/
def State.map (π : ω' → ω) (s : State ω') : State ω := ⟨s.stash, π s.outside⟩

@[simp] theorem State.map_stash (s : State ω') : (s.map π).stash = s.stash := rfl

/-- The progress seen through a projection of the outside. -/
def Progress.map (π : ω' → ω) (p : Progress ω' α) : Progress ω α :=
  ⟨p.made, p.count, p.failure, p.state.map π⟩

/-! ### Actions -/

theorem outside_over {a' : Action ω' α} {a : Action ω α} (ha : Action.Over π a' a) :
    Action.Over (State.map π) (outside a') (outside a) := fun s => by
  simp only [outside, Action.onPart, State.map, ha s.outside]

theorem note_over (ho : Host.Over π h' h) (t : Text) :
    Action.Over (State.map π) (note h' t) (note h t) := outside_over (ho.2 .debug t)

theorem keepHtml_over (html : Option Text) :
    Action.Over (State.map π) (keepHtml html) (keepHtml html) := fun _ => rfl

theorem opened_over (ho : Host.Over π h' h) (marker : Text) :
    Action.Over (State.map π) (opened h' marker) (opened h marker) :=
  (note_over ho _).bind fun _ => (outside_over (Marker.read_over ho marker)).bind fun e =>
    (outside_over (ho.1 e)).bind keepHtml_over

theorem unclosed_over (ho : Host.Over π h' h) (marker : Text) :
    Action.Over (State.map π) (unclosed h' marker) (unclosed h marker) :=
  (note_over ho _).bind fun _ => Action.over_fail _

/-! ### Passes -/

theorem scan_over (ho : Host.Over π h' h) (es : List Element) (s : State ω') :
    scan h es (s.map π) = (scan h' es s).map π := by
  have hopen := opened_over ho
  have hnote := note_over ho
  have hunclosed := unclosed_over ho
  fun_induction scan h' es s with
  | case1 => rfl
  | case2 =>
    simp only [scan, State.map_stash, *]
    rfl
  | case3 =>
    simp only [scan, State.map_stash, hopen _ _, *]
    rfl
  | case4 | case5 | case8 | case9 | case12 | case13 =>
    simp only [scan, State.map_stash, hopen _ _, hunclosed _ _, *]
    rfl
  | case6 | case7 | case10 | case11 =>
    simp only [scan, State.map_stash, hopen _ _, hnote _ _, *]
    rfl

mutual

theorem element_over (ho : Host.Over π h' h) : ∀ (e : Element) (s : State ω'),
    element h e (s.map π) = (element h' e s).map π
  | ⟨tag, attributes, text, literal, es, tail⟩, s => by
    simp only [element, scan_over ho]
    cases hscan : (scan h' es s).failure with
    | some f => simp only [Progress.map, hscan]
    | none => simp only [Progress.map, hscan, siblings_over ho]

theorem siblings_over (ho : Host.Over π h' h) : ∀ (es : List Element) (s : State ω'),
    siblings h es (s.map π) = (siblings h' es s).map π
  | [], _ => rfl
  | e :: es, s => by
    simp only [siblings, element_over ho e s]
    cases hfirst : (element h' e s).failure with
    | some f => simp only [Progress.map, hfirst]
    | none => simp only [Progress.map, hfirst, siblings_over ho es]

end

theorem report_over (ho : Host.Over π h' h) (n : ℕ) :
    Action.Over (State.map π) (report h' n) (report h n) := by
  unfold report
  split
  · exact Action.over_result ()
  · exact note_over ho _

/-- **A pass of a host with more behind it is the pass of the host.** -/
theorem run_over (ho : Host.Over π h' h) (root : Element) (s : State ω') :
    run h root (s.map π) = (run h' root s).map π := by
  simp only [run, element_over ho root s]
  cases hroot : (element h' root s).failure with
  | some f => simp only [Progress.map, hroot]
  | none =>
    have hreport := report_over ho (element h' root s).count (element h' root s).state
    simp only [Progress.map, hroot, hreport]
    rcases report h' (element h' root s).count (element h' root s).state with ⟨_ | _, s'⟩ <;> rfl

/-! ### Calls -/

/-- The pass with the record of its calls. -/
def traced (h : Host ω) (root : Element) (s : State ω) : Progress (ω × List Call) Element :=
  run h.traced root ⟨s.stash, s.outside, []⟩

/-- The calls of the renderer that a pass makes, in their order. -/
def calls (h : Host ω) (root : Element) (s : State ω) : List Call :=
  (traced h root s).state.outside.2

/-- The record changes nothing. -/
theorem run_eq_traced (h : Host ω) (root : Element) (s : State ω) :
    run h root s = (traced h root s).map Prod.fst :=
  run_over h.traced_over root ⟨s.stash, s.outside, []⟩

end MathPage.Pass
