import MathPage.Proofs.Conversion.Messages

/-!
# A logger that others write to

The renderer and the callback may have the same logger as the conversion and send it messages of
their own.

* `Event.Sends`, `Conversion.Received` – what reaches the logger in an event, and in several: the
  messages of the conversion, and between them those of the others, while they are called;
* `Host.Keeps` – a logger that keeps what it receives;
* `Conversion.Hears` – events and what has reached the logger in them, from one state to another;
* `Conversion.call_hears`, `Conversion.call_received` – a whole call.

The messages of the conversion keep their order (`Received.sublist`).
-/

namespace MathPage

variable {ω : Type} {h : Host ω} {log : ω → List (Severity × Text)}

/-- The logger keeps what it receives: the messages of the conversion, and behind them what the
renderer sends while it is called. -/
structure Host.Keeps (h : Host ω) (log : ω → List (Severity × Text)) : Prop where
  said (severity : Severity) (t : Text) (w : ω) :
    log (h.log severity t w).2 = log w ++ [(severity, t)]
  asked (e : Equation) (w : ω) : log w <+: log (h.render e w).2

theorem Host.NeverRefuses.observed (hq : h.NeverRefuses) : h.observed.NeverRefuses :=
  fun severity t w => hq severity t w.1

namespace Conversion

/-! ### Events -/

/-- What reaches the logger in an event: a message of the conversion, or whatever the renderer or the
callback sends while it is called. -/
inductive Event.Sends : Event → List (Severity × Text) → Prop where
  | said (severity : Severity) (t : Text) : Sends (.said severity t) [(severity, t)]
  | asked (e : Equation) (own : List (Severity × Text)) : Sends (.asked e) own
  | handed (error : Option Failure) (html : Option Text) (own : List (Severity × Text)) :
    Sends (.handed error html) own

/-- What reaches the logger in events. -/
def Received (es : List Event) (rs : List (Severity × Text)) : Prop :=
  ∃ parts, List.Forall₂ Event.Sends es parts ∧ rs = parts.flatten

section Received

variable {e : Event} {es es' : List Event} {rs rs' : List (Severity × Text)}

theorem Received.nil : Received [] [] := ⟨[], .nil, rfl⟩

theorem Event.Sends.received (he : e.Sends rs) : Received [e] rs :=
  ⟨[rs], .cons he .nil, by simp⟩

theorem Received.append (hr : Received es rs) (hr' : Received es' rs') :
    Received (es ++ es') (rs ++ rs') := by
  obtain ⟨parts, hparts, rfl⟩ := hr
  obtain ⟨parts', hparts', rfl⟩ := hr'
  exact ⟨parts ++ parts', List.rel_append hparts hparts', List.flatten_append.symm⟩

/-- The messages of the conversion reach the logger in their order. -/
theorem Received.sublist (hr : Received es rs) : (records es).Sublist rs := by
  obtain ⟨parts, hparts, rfl⟩ := hr
  induction hparts with
  | nil => exact .slnil
  | cons he _ ih =>
    cases he with
    | said severity t => exact ih.cons_cons (severity, t)
    | asked | handed => exact ih.trans (List.sublist_append_right _ _)

end Received

/-! ### From state to state -/

/-- From one state to the other, events were written down, and what they sent reached the logger. -/
def Hears (log : ω → List (Severity × Text)) (w v : ω × List Event) : Prop :=
  ∃ es rs, v.2 = w.2 ++ es ∧ log v.1 = log w.1 ++ rs ∧ Received es rs

theorem Hears.refl (w : ω × List Event) : Hears log w w :=
  ⟨[], [], (List.append_nil _).symm, (List.append_nil _).symm, .nil⟩

theorem Hears.trans {u v w : ω × List Event} (huv : Hears log u v) (hvw : Hears log v w) :
    Hears log u w := by
  obtain ⟨es, rs, hes, hrs, hr⟩ := huv
  obtain ⟨es', rs', hes', hrs', hr'⟩ := hvw
  exact ⟨es ++ es', rs ++ rs', by rw [hes', hes, List.append_assoc],
    by rw [hrs', hrs, List.append_assoc], hr.append hr'⟩

section Keeps

variable (hlog : h.Keeps log) {w v : ω × List Event}

include hlog

theorem hears_said (severity : Severity) (t : Text) (w : ω × List Event) :
    Hears log w (h.observed.log severity t w).2 :=
  ⟨[.said severity t], [(severity, t)], rfl, hlog.said severity t w.1,
    (Event.Sends.said severity t).received⟩

theorem hears_asked (e : Equation) (w : ω × List Event) :
    Hears log w (h.observed.render e w).2 := by
  obtain ⟨own, hown⟩ := hlog.asked e w.1
  exact ⟨[.asked e], own, rfl, hown.symm, (Event.Sends.asked e own).received⟩

theorem hears_of_told {P : Text → Prop} (ht : h.observed.Told P w v) : Hears log w v := by
  induction ht with
  | refl => exact .refl w
  | asked e _ ih => exact ih.trans (hears_asked hlog e _)
  | said _ _ ih => exact ih.trans (hears_said hlog .debug _ _)

theorem hears_of_logged (hl : h.observed.Logged w v) : Hears log w v := by
  induction hl with
  | refl => exact .refl w
  | step severity t _ ih => exact ih.trans (hears_said hlog severity t _)

end Keeps

end Conversion

/-! ### Stages -/

namespace Job

open Conversion

variable {j : Job} {w v : World (ω × List Event)} {u : ω × List Event}

section Keeps

variable (hlog : h.Keeps log)

include hlog

theorem Converts.hears {r : Except Failure Text} (hc : j.Converts h.observed w r u) :
    Hears log w.outside u := by
  obtain ⟨t, u₀, hr, hrender⟩ := hc
  have htold := render_tells h.observed t u₀
  rw [hrender] at htold
  exact (hears_of_logged hlog hr.2).trans (hears_of_told hlog htold)

theorem Renders.hears {r : Except Failure Text} (hr : j.Renders h.observed w r u) :
    Hears log w.outside u := by
  obtain ⟨html, u₀, u₁, hc, hlogged, hframed⟩ := hr
  have htold := framed_tells h.observed j.options html u₁
  rw [hframed] at htold
  exact (Converts.hears hlog hc).trans
    ((hears_of_logged hlog hlogged).trans (hears_of_told hlog htold))

theorem Writes.hears {r : Except Failure Drive} (hw : j.Writes h.observed w r u) :
    Hears log w.outside u := by
  obtain ⟨page, u₀, place, hr, hlogged, -⟩ := hw
  exact (Renders.hears hlog hr).trans (hears_of_logged hlog hlogged)

theorem FailsAt.hears {stage : Stage} {f : Failure} (hf : j.FailsAt h.observed w stage f u) :
    Hears log w.outside u := by
  cases stage with
  | reading => exact hears_of_logged hlog hf.2
  | converting => exact Converts.hears hlog hf
  | rendering => exact Renders.hears hlog hf
  | writing => exact Writes.hears hlog hf

theorem Delivers.hears {outcome : Outcome} (hd : j.Delivers h.observed w outcome v) :
    Hears log w.outside v.outside := by
  cases hd with
  | failed hfails hlogged _ => exact (FailsAt.hears hlog hfails).trans (hears_of_logged hlog hlogged)
  | returned hr _ hlogged _ => exact (Renders.hears hlog hr).trans (hears_of_logged hlog hlogged)
  | written hw _ hlogged => exact (Writes.hears hlog hw).trans (hears_of_logged hlog hlogged)

end Keeps

end Job

namespace Conversion

/-! ### Whole calls -/

/-- **What reaches the logger in a call** is what the events of the call send, if neither the renderer
nor the callback takes a message away. -/
theorem call_hears (hq : h.NeverRefuses) (hlog : h.Keeps log) {current : Place} {file : Value}
    {options callback : Argument ω} {o : Except Options.Refusal Options} {k : Option (Callback ω)}
    (hk : arguments options callback = .ok (o, k))
    (hcallback : ∀ c, k = some c → ∀ error html v, log v <+: log (c error html v).2) {w : World ω}
    {j : Job} {u : ω × List Event}
    (hj : Job.prepare h.observed current file o (w.outside, []) = (.ok j, u)) :
    Hears log (w.outside, []) (call h.observed current file options.observed callback.observed
      ⟨w.drive, w.outside, []⟩).2.outside := by
  have hprepare := Job.prepare_tells h.observed current file o (w.outside, [])
  rw [hj] at hprepare
  obtain ⟨outcome, v, hrun, hd⟩ := run_delivers hq.observed j ⟨w.drive, u⟩
  have hbegin : begin h.observed current file o ⟨w.drive, w.outside, []⟩ = (.ok outcome, v) :=
    (begin_of_ok hj).trans hrun
  have hbefore : Hears log (w.outside, []) v.outside :=
    (hears_of_told hlog hprepare).trans (Job.Delivers.hears hlog hd)
  rw [call, arguments_observed, hk]
  simp only [Except.map, Action.bind_of_ok hbegin]
  cases k with
  | none => exact hbefore
  | some c =>
    obtain ⟨own, hown⟩ := hcallback c rfl outcome.error outcome.html v.outside.1
    show Hears log _ ((Job.outside (c.observed outcome.error outcome.html) >>= fun _ =>
      pure outcome) v).2.outside
    rw [Job.outside_bind_pure]
    exact hbefore.trans ⟨[.handed outcome.error outcome.html], own, rfl, hown.symm,
      (Event.Sends.handed _ _ own).received⟩

/-- The same of the call that nobody writes down: its logger has received it at the end. -/
theorem call_received (hq : h.NeverRefuses) (hlog : h.Keeps log) {current : Place} {file : Value}
    {options callback : Argument ω} {o : Except Options.Refusal Options} {k : Option (Callback ω)}
    (hk : arguments options callback = .ok (o, k))
    (hcallback : ∀ c, k = some c → ∀ error html v, log v <+: log (c error html v).2) {w : World ω}
    {j : Job} {u : ω × List Event}
    (hj : Job.prepare h.observed current file o (w.outside, []) = (.ok j, u)) :
    ∃ rs, log (call h current file options callback w).2.outside = log w.outside ++ rs ∧
      Received (call h.observed current file options.observed callback.observed
        ⟨w.drive, w.outside, []⟩).2.outside.2 rs := by
  obtain ⟨es, rs, hes, hrs, hr⟩ := call_hears hq hlog hk hcallback hj
  rw [List.nil_append] at hes
  have hover := call_observed h current file options callback ⟨w.drive, w.outside, []⟩
  have hstate : (call h current file options callback w).2.outside =
      (call h.observed current file options.observed callback.observed
        ⟨w.drive, w.outside, []⟩).2.outside.1 := congrArg (fun p => p.2.outside) hover
  exact ⟨rs, hstate ▸ hrs, hes ▸ hr⟩

end Conversion

end MathPage
