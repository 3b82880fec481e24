import MathPage.Conversion.Job
import MathPage.Proofs.Markdown.Host

/-!
# What a conversion asks of its host

* `World.map` – the files and a projection of the outside;
* `Job.run_over`, `Conversion.begin_over` – a conversion with a host that has more behind it is the
  conversion with the host.

The conversion passes the outside on from stage to stage and looks at it only through its host, so
that each stage needs no more than that its messages and its calls agree.
-/

namespace MathPage

variable {ω ω' : Type} {π : ω' → ω} {h' : Host ω'} {h : Host ω}

/-- The world seen through a projection of the outside. -/
def World.map (π : ω' → ω) (w : World ω') : World ω := ⟨w.drive, π w.outside⟩

theorem Action.Over.attempt {σ σ' α : Type} {ρ : σ' → σ} {a' : Action σ' α} {a : Action σ α}
    (ha : Over ρ a' a) : Over ρ a'.attempt a.attempt := fun s => by
  simp only [Action.attempt, ha s]

theorem Page.render_over (ho : Host.Over π h' h) (v : View) :
    Action.Over π (Page.render h' v) (Page.render h v) :=
  (ho.2 _ _).bind fun _ => (ho.2 _ _).bind fun _ => Action.over_result _

namespace Job

/-! ### Checks -/

theorem locateDestination_over (ho : Host.Over π h' h) (current : Place) (o : Options) :
    Action.Over π (locateDestination h' current o) (locateDestination h current o) := by
  unfold locateDestination
  cases o.destination? with
  | none => exact Action.over_result none
  | some d =>
    exact Action.Over.bind (fun _ => rfl) fun _ => (ho.2 _ _).bind fun _ => Action.over_result _

theorem prepare_over (ho : Host.Over π h' h) (current : Place) (file : Value)
    (options : Except Options.Refusal Options) :
    Action.Over π (prepare h' current file options) (prepare h current file options) := by
  unfold prepare
  cases filePath? file with
  | none => exact Action.over_fail _
  | some path =>
    cases options with
    | error r => exact Action.over_fail _
    | ok o =>
      exact (ho.2 _ _).bind fun _ => Action.Over.bind (fun _ => rfl) fun _ =>
        (ho.2 _ _).bind fun _ => (locateDestination_over ho current o).bind fun _ =>
          Action.over_result _

/-! ### Stages -/

theorem outside_over {α : Type} {a' : Action ω' α} {a : Action ω α} (ha : Action.Over π a' a) :
    Action.Over (World.map π) (outside a') (outside a) := fun w => by
  simp only [outside, Action.onPart, World.map, ha w.outside]

theorem note_over (ho : Host.Over π h' h) (t : String) :
    Action.Over (World.map π) (note h' t) (note h t) := outside_over (ho.2 _ _)

theorem failed_over (ho : Host.Over π h' h) (stage : Stage) (f : Failure) :
    Action.Over (World.map π) (failed h' stage f) (failed h stage f) :=
  (outside_over (ho.2 _ _)).bind fun _ _ => rfl

theorem read_over (ho : Host.Over π h' h) (j : Job) :
    Action.Over (World.map π) (j.read h') (j.read h) := (note_over ho _).bind fun _ _ => rfl

theorem loaded_over (ho : Host.Over π h' h) (r : Except Failure Text) :
    Action.Over (World.map π) (loaded h' r) (loaded h r) := by
  cases r with
  | error f => exact (failed_over ho _ f).bind fun _ => Action.over_result _
  | ok t => exact (note_over ho _).bind fun _ => Action.over_result _

theorem fragment_over (ho : Host.Over π h' h) (t : Text) :
    Action.Over (World.map π) (fragment h' t) (fragment h t) := by
  refine (note_over ho _).bind fun _ =>
    (outside_over (Markdown.render_over ho t)).attempt.bind fun r => ?_
  cases r with
  | error f => exact (failed_over ho _ f).bind fun _ => Action.over_result _
  | ok html => exact (note_over ho _).bind fun _ => Action.over_result _

theorem page_over (ho : Host.Over π h' h) (o : Options) (html : Text) :
    Action.Over (World.map π) (page h' o html) (page h o html) := by
  unfold page
  split
  · exact Action.over_result _
  refine (outside_over (Page.render_over ho _)).attempt.bind fun r => ?_
  cases r with
  | error f => exact (failed_over ho _ f).bind fun _ => Action.over_result _
  | ok t => exact Action.over_result _

theorem write?_over (page : Text) (place : Place) :
    Action.Over (World.map π) (write? page place) (write? page place) := fun w => by
  simp only [write?, World.map]
  cases w.drive.write place (Utf8.encode page) <;> rfl

theorem store_over (ho : Host.Over π h' h) (destination : Option Place) (t : Text) :
    Action.Over (World.map π) (store h' destination t) (store h destination t) := by
  cases destination with
  | none => exact fun _ => rfl
  | some place =>
    refine (note_over ho _).bind fun _ => (write?_over t place).bind fun r => ?_
    cases r with
    | error f => exact failed_over ho _ f
    | ok _ => exact (note_over ho _).bind fun _ _ => rfl

theorem unlessDelivered_over {α : Type} {k' : α → Action (World ω') Outcome}
    {k : α → Action (World ω) Outcome} (hk : ∀ x, Action.Over (World.map π) (k' x) (k x))
    (r : Except Outcome α) :
    Action.Over (World.map π) (unlessDelivered r k') (unlessDelivered r k) := by
  cases r with
  | error o => exact Action.over_result o
  | ok x => exact hk x

theorem finish_over (ho : Host.Over π h' h) (j : Job) (r : Except Failure Text) :
    Action.Over (World.map π) (j.finish h' r) (j.finish h r) :=
  (loaded_over ho r).bind <| unlessDelivered_over fun t =>
    (fragment_over ho t).bind <| unlessDelivered_over fun html =>
      (page_over ho j.options html).bind <| unlessDelivered_over (store_over ho j.destination)

/-- **A checked conversion with a host that has more behind it is the one with the host.** -/
theorem run_over (ho : Host.Over π h' h) (j : Job) :
    Action.Over (World.map π) (j.run h') (j.run h) :=
  ((read_over ho j).bind (finish_over ho j)).inside .coroutine

end Job

/-- **A conversion with a host that has more behind it is the conversion with the host.** -/
theorem Conversion.begin_over (ho : Host.Over π h' h) (current : Place) (file : Value)
    (options : Except Options.Refusal Options) :
    Action.Over (World.map π) (begin h' current file options) (begin h current file options) :=
  (Job.outside_over (Job.prepare_over ho current file options)).bind (Job.run_over ho)

end MathPage
