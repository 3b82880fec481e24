import MathPage.Markdown.Convert
import MathPage.Proofs.Equation.Stop

/-!
# What converting a text asks of its host

* `Pass.run_recorded`, `Markdown.render_records` – a call of the renderer that fails ends the pass,
  and with it the conversion of the text, with what its failure becomes beyond the generator;
* `Markdown.convert_over`, `Markdown.render_over` – converting with a host that has more behind it is
  converting with the host.
-/

namespace MathPage

namespace Pass

variable {ω : Type} {h : Host ω}

/-! ### The record of a pass that may fail -/

/-- Answers are calls that did not fail. -/
theorem Ran.recorded {answers : List Answer} {s t : State (ω × List Call)} {ended : Failure → Prop}
    (hr : Ran h.traced s answers t) : Recorded s.outside.2 t.outside.2 ended := by
  refine ⟨answers.map Answer.call, hr.calls, fun c hc f hf => ?_⟩
  obtain ⟨a, -, rfl⟩ := List.mem_map.1 hc
  cases hf

/-- If the call fails that the start marker makes at which a pass ends, its failure ends the pass. -/
theorem Ended.recorded {marker : Text} {rest : List Element} {s t : State (ω × List Call)}
    {f : Failure} (he : Ended h.traced marker rest s f t) :
    Recorded s.outside.2 t.outside.2 (f = ·) := by
  cases he with
  | unreadable _ _ hlogged | refused _ _ hlogged => exact recorded_of_logged hlogged
  | @unrendered eqn w _ hlogged hrender _ =>
    refine (recorded_of_logged hlogged).trans ⟨[⟨eqn, .error f⟩], ?_, ?_⟩
    · exact Host.calls_of_render hrender
    · simp
  | unclosed hrendered _ _ hstash hlogged | refusedBehind hrendered _ hstash hlogged =>
    exact Ran.recorded (.step hrendered (.done hstash hlogged))

theorem report_logged {n : ℕ} {s s' : State ω} {r : Except Failure Unit}
    (hr : report h n s = (r, s')) : h.Logged s.outside s'.outside := by
  unfold report at hr
  split at hr
  · obtain ⟨-, rfl⟩ := Prod.mk.inj hr
    exact .refl _
  · exact (note_eq hr).2

/-- **A renderer that fails ends the pass**, with what its failure becomes beyond the generator. -/
theorem run_recorded (h : Host ω) (root : Element) (s : State (ω × List Call)) :
    Recorded s.outside.2 (run h.traced root s).state.outside.2
      fun f => (run h.traced root s).failure = some (f.beyond .generator) := by
  cases hroot : (element h.traced root s).failure with
  | none =>
    obtain ⟨answers, hw, -⟩ := element_worked _ root s hroot
    simp only [run, hroot]
    rcases hreport : report h.traced (element h.traced root s).count
      (element h.traced root s).state with ⟨_ | _, s'⟩ <;>
      exact hw.ran.recorded.trans (recorded_of_logged (report_logged hreport))
  | some f =>
    obtain ⟨c, editss, own, answers, marker, s₁, hstop, -⟩ := element_stoppedAt _ root s hroot
    rw [run_of_failure hroot]
    refine (hstop.edited.ran.recorded.trans hstop.ended.recorded).imp fun f' hf' => ?_
    rw [hf']

end Pass

namespace Markdown

variable {ω ω' : Type} {π : ω' → ω} {h' : Host ω'} {h : Host ω}

/-! ### Converting -/

/-- The session seen through a projection of the outside. -/
def Session.map (π : ω' → ω) (s : Session ω') : Session ω := ⟨s.stash, s.definitions, π s.outside⟩

/-- **Converting with a host that has more behind it is converting with the host.** -/
theorem convert_over (ho : Host.Over π h' h) (d : Dialect) (t : Text) :
    Action.Over (Session.map π) (convert d h' t) (convert d h t) := by
  intro s
  unfold convert
  split
  · rfl
  simp only [Session.map]
  cases htree : tree d t s.definitions s.stash with
  | error f => rfl
  | ok made =>
    obtain ⟨root, defs, stash⟩ := made
    have hrun := Pass.run_over ho root ⟨stash, s.outside⟩
    simp only [Pass.State.map] at hrun
    simp only [hrun, Pass.Progress.map]
    cases (Pass.run h' root ⟨stash, s.outside⟩).failure <;> rfl

theorem render_over (ho : Host.Over π h' h) (t : Text) :
    Action.Over π (render h' t) (render h t) := by
  refine (ho.2 _ _).bind fun _ w => ?_
  have hconvert := convert_over ho .extended t { outside := w }
  simp only [Session.map] at hconvert
  simp only [hconvert]

/-! ### The record of a text -/

theorem convert_recorded (h : Host ω) (d : Dialect) (t : Text) (s : Session (ω × List Call)) :
    Recorded s.outside.2 (convert d h.traced t s).2.outside.2
      fun f => (convert d h.traced t s).1 = .error (f.beyond .generator) := by
  unfold convert
  split
  · exact .refl _
  cases tree d t s.definitions s.stash with
  | error f => exact .refl _
  | ok made =>
    obtain ⟨root, defs, stash⟩ := made
    have hpass := Pass.run_recorded h root ⟨stash, s.outside⟩
    cases hp : (Pass.run h.traced root ⟨stash, s.outside⟩).failure with
    | none =>
      simp only [hp] at hpass ⊢
      exact hpass.imp fun f hf => by cases hf
    | some f' =>
      simp only [hp] at hpass ⊢
      exact hpass.imp fun f hf => congrArg Except.error (Option.some.inj hf)

/-- **A renderer that fails ends the conversion of a text.** -/
theorem render_records (h : Host ω) (t : Text) : Host.Records (render h.traced t) :=
  (Host.log_records h _ _).bind fun _ w => convert_recorded h .extended t { outside := w }

end Markdown

end MathPage
