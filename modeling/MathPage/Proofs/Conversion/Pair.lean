import MathPage.Proofs.Conversion.Modes

/-!
# Two conversions at the same time

Two conversions of the same file are started together, and both have read it before the first of
them goes on. With a pure renderer and a logger that takes every message they are as one: each has
the outcome of a conversion alone, and the files behind them are those that one leaves
(`Conversion.pair_agree`).

The second conversion has read the text that the first one read, even if the first has overwritten it
meanwhile, and so makes the same page; and what the first has written, the second writes once more
(`Job.settle_settle`).
-/

namespace MathPage

variable {ω ω' : Type} {π : ω' → ω} {h' : Host ω'} {h : Host ω}
  {f : Equation → Except Failure (Option Text)}

namespace Job

/-- Settling once more comes to the same. -/
theorem settle_settle (j : Job) (d : Drive) (r : Except Failure Text) :
    j.settle (j.settle d r).2 r = j.settle d r := by
  cases r with
  | error e => rfl
  | ok page =>
    simp only [settle]
    cases j.destination with
    | none => rfl
    | some place =>
      cases hwrite : d.write place (Utf8.encode page) with
      | error e => simp only [hwrite]
      | ok d' => simp only [hwrite, Drive.write_write hwrite]

end Job

namespace Conversion

/-- Two conversions with a host that has more behind it are those with the host. -/
theorem pair_over (ho : Host.Over π h' h) (current : Place) (file options : Value) :
    Action.Over (World.map π) (pair h' current file options) (pair h current file options) := by
  have hprepare := Job.outside_over (Job.prepare_over ho current file (Options.read options))
  have hread := fun j : Job => (Job.read_over ho j).inside .coroutine
  have hfinish := fun (j : Job) r => (Job.finish_over ho j r).inside .coroutine
  exact hprepare.bind fun i => hprepare.bind fun j => (hread i).bind fun first =>
    (hread j).bind fun second => (hfinish i first).bind fun _ => (hfinish j second).bind fun _ =>
      Action.over_result _

/-- Two conversions with a silent host are one. -/
theorem pair_silent (current : Place) (file options : Value) (w : World Unit) :
    pair (Host.silent f) current file options w =
      ((start (Host.silent f) current file options w).1.map fun outcome => (outcome, outcome),
        (start (Host.silent f) current file options w).2) := by
  obtain ⟨u, hprepare, -⟩ := (Job.prepare_computes (Host.silent f) current file
    (Options.read options)).exists_eq (Host.silent_neverRefuses f) w.outside
  rw [pair, start]
  cases hcheck : Job.check current file (Options.read options) with
  | error e =>
    rw [hcheck] at hprepare
    have hstep := Job.outside_of_eq (w := w) hprepare
    rw [begin, Action.bind_of_error hstep, Action.bind_of_error hstep]
    rfl
  | ok j =>
    rw [hcheck] at hprepare
    have hstep : Job.outside (Job.prepare (Host.silent f) current file (Options.read options)) w =
        (.ok j, w) := Job.outside_of_eq hprepare
    have hread : (j.read (Host.silent f)).inside .coroutine w =
        (.ok (w.drive.readText j.source), w) := rfl
    have hfinish := fun v => Action.inside_of_ok
      (j.finish_silent (f := f) (w.drive.readText j.source) v) .coroutine
    have hmade : j.madeOf f (w.drive.readText j.source) = j.made f w.drive := rfl
    rw [begin_of_ok hprepare, Job.run_silent, Action.bind_of_ok hstep, Action.bind_of_ok hstep,
      Action.bind_of_ok hread, Action.bind_of_ok hread, Action.bind_of_ok (hfinish w),
      Action.bind_of_ok (hfinish _), hmade, Job.settle_settle]
    rfl

/-- **Two conversions at the same time are as one.** Both are refused for the same fault, or each has
the outcome of a conversion alone; and the files behind them are those that one conversion leaves. -/
theorem pair_agree (hq : h.NeverRefuses) (hp : h.IsPure) (current : Place) (file options : Value)
    (w : World ω) :
    (pair h current file options w).1 =
        (start h current file options w).1.map (fun outcome => (outcome, outcome)) ∧
      (pair h current file options w).2.drive = (start h current file options w).2.drive := by
  obtain ⟨f, ho⟩ := hp.exists_over_silent hq
  have hpair := pair_over ho current file options w
  have hstart := begin_over ho current file (Options.read options) w
  rw [pair_silent, start, hstart] at hpair
  obtain ⟨hresult, hworld⟩ := Prod.mk.inj hpair
  exact ⟨hresult.symm, (congrArg World.drive hworld).symm⟩

end Conversion

end MathPage
