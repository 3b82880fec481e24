import MathPage.Action
import MathPage.Proofs.Text.Basic

/-!
# What a run asks of its host

* `Call`, `Host.traced` – a host that writes down every call of its renderer with the outcome;
* `Host.Logged` – the states of the outside that log messages alone lead to;
* `Host.NeverRefuses`, `Host.Refuses` – a logger that takes every message, and one that refuses one;
* `Host.Computes` – an action that gives a result and does nothing beside it but log;
* `Host.IsPure`, `Host.Answers` – a renderer whose answer depends on the equation only, and one that
  always answers;
* `Recorded`, `Host.Records` – calls that were made, of which one that failed has ended all;
* `Action.Over` – an action seen through a projection of its state.

A traced host is its host with a record beside it (`traced_over`), and log messages leave the record
as it is (`calls_of_logged`).
-/

namespace MathPage

/-- A call of the renderer: the equation and what came of it. -/
structure Call where
  equation : Equation
  outcome : Except Failure (Option Text)

/-- A failure leaves a boundary as it is, unless it is the signal that ends an iteration. -/
theorem Failure.beyond_cases (b : Boundary) (f : Failure) :
    f.beyond b = f ∨ ∃ m, f = .foreign .exhausted m ∧
      f.beyond b = .foreign .runtime (b.name ++ " raised StopIteration".toList) := by
  cases f with
  | foreign kind m => cases kind <;> first | exact Or.inl rfl | exact Or.inr ⟨m, rfl, rfl⟩
  | _ => exact Or.inl rfl

namespace Action

variable {σ σ' α β : Type} {π : σ' → σ}

/-- The first action is the second one on a state that a projection leaves out parts of. -/
def Over (π : σ' → σ) (a' : Action σ' α) (a : Action σ α) : Prop :=
  ∀ s, a (π s) = ((a' s).1, π (a' s).2)

theorem over_result (x : α) : Over π (result x) (result x) := fun _ => rfl

theorem over_fail (f : Failure) : Over π (fail f : Action σ' α) (fail f) := fun _ => rfl

theorem Over.bind {a' : Action σ' α} {a : Action σ α} {k' : α → Action σ' β} {k : α → Action σ β}
    (ha : Over π a' a) (hk : ∀ x, Over π (k' x) (k x)) : Over π (a' >>= k') (a >>= k) := by
  intro s
  show andThen a k (π s) = ((andThen a' k' s).1, π (andThen a' k' s).2)
  rw [andThen, andThen, ha s]
  rcases a' s with ⟨_ | x, t⟩
  · rfl
  · exact hk x t

theorem Over.inside {a' : Action σ' α} {a : Action σ α} (ha : Over π a' a) (b : Boundary) :
    Over π (a'.inside b) (a.inside b) := fun s => by
  simp only [Action.inside, ha s]

/-- What succeeds leaves a boundary as it is. -/
theorem inside_of_ok {a : Action σ α} {s t : σ} {x : α} (h : a s = (.ok x, t)) (b : Boundary) :
    a.inside b s = (.ok x, t) := by
  simp only [inside, h, Except.mapError]

/-- What a sequence of actions gives is what the second gives after the first. -/
theorem bind_eq_ok {a : Action σ α} {k : α → Action σ β} {s t : σ} {y : β}
    (h : (a >>= k) s = (.ok y, t)) : ∃ x u, a s = (.ok x, u) ∧ k x u = (.ok y, t) := by
  change andThen a k s = _ at h
  rw [andThen] at h
  rcases ha : a s with ⟨_ | x, u⟩
  · simp [ha] at h
  · rw [ha] at h
    exact ⟨x, u, rfl, h⟩

/-- A sequence of actions fails in the first one, or in the second one after the first. -/
theorem bind_eq_error {a : Action σ α} {k : α → Action σ β} {s t : σ} {f : Failure}
    (h : (a >>= k) s = (.error f, t)) :
    a s = (.error f, t) ∨ ∃ x u, a s = (.ok x, u) ∧ k x u = (.error f, t) := by
  change andThen a k s = _ at h
  rw [andThen] at h
  rcases ha : a s with ⟨f' | x, u⟩
  · rw [ha] at h
    obtain ⟨hf, rfl⟩ := Prod.mk.inj h
    exact Or.inl (by rw [Except.error.inj hf])
  · rw [ha] at h
    exact Or.inr ⟨x, u, rfl, h⟩

theorem bind_of_ok {a : Action σ α} {k : α → Action σ β} {s u : σ} {x : α} (h : a s = (.ok x, u)) :
    (a >>= k) s = k x u := by
  show andThen a k s = _
  rw [andThen, h]

/-- Equal outcomes are gone on with in the same way. -/
theorem bind_congr {a a' : Action σ α} {s s' : σ} (h : a s = a' s') (k : α → Action σ β) :
    (a >>= k) s = (a' >>= k) s' := by
  show andThen a k s = andThen a' k s'
  rw [andThen, andThen, h]

theorem bind_of_error {a : Action σ α} {k : α → Action σ β} {s u : σ} {f : Failure}
    (h : a s = (.error f, u)) : (a >>= k) s = (.error f, u) := by
  show andThen a k s = _
  rw [andThen, h]

theorem bind_assoc {γ : Type} (a : Action σ α) (b : α → Action σ β) (c : β → Action σ γ) :
    a >>= b >>= c = a >>= fun x => b x >>= c := by
  funext s
  rcases ha : a s with ⟨f | x, t⟩
  · rw [bind_of_error ha, bind_of_error (bind_of_error ha)]
  · rw [bind_of_ok ha]
    rcases hb : b x t with ⟨f | y, u⟩
    · rw [bind_of_error hb, bind_of_error ((bind_of_ok ha).trans hb)]
    · rw [bind_of_ok hb, bind_of_ok ((bind_of_ok ha).trans hb)]

end Action

namespace Host

variable {ω ω' : Type}

/-- The host that keeps a record of the calls beside the outside. -/
def traced (h : Host ω) : Host (ω × List Call) where
  render e := fun s => ((h.render e s.1).1, (h.render e s.1).2, s.2 ++ [⟨e, (h.render e s.1).1⟩])
  log severity t := fun s => ((h.log severity t s.1).1, (h.log severity t s.1).2, s.2)

/-- The first host is the second one with more behind it. -/
def Over (π : ω' → ω) (h' : Host ω') (h : Host ω) : Prop :=
  (∀ e, Action.Over π (h'.render e) (h.render e)) ∧
    ∀ severity t, Action.Over π (h'.log severity t) (h.log severity t)

theorem traced_over (h : Host ω) : Over Prod.fst h.traced h :=
  ⟨fun _ _ => rfl, fun _ _ _ => rfl⟩

/-- The second state of the outside comes from the first by log messages. -/
inductive Logged (h : Host ω) : ω → ω → Prop where
  | refl (w : ω) : Logged h w w
  | step {w v : ω} (severity : Severity) (t : Text) (hv : Logged h w v) :
    Logged h w (h.log severity t v).2

theorem Logged.trans {h : Host ω} {u v w : ω} (huv : h.Logged u v) (hvw : h.Logged v w) :
    h.Logged u w := by
  induction hvw with
  | refl => exact huv
  | step severity t _ ih => exact .step severity t ih

theorem logged_log (h : Host ω) (severity : Severity) (t : Text) (w : ω) :
    h.Logged w (h.log severity t w).2 := .step severity t (.refl w)

/-- What a log message does not change, several of them do not change. -/
theorem Logged.eq_of_log {h : Host ω} {α : Type} {p : ω → α}
    (hp : ∀ severity t w, p (h.log severity t w).2 = p w) {w v : ω} (hl : h.Logged w v) :
    p v = p w := by
  induction hl with
  | refl => rfl
  | step severity t _ ih => exact (hp severity t _).trans ih

/-- Log messages are no calls. -/
theorem calls_of_logged {h : Host ω} {w v : ω × List Call} (hl : h.traced.Logged w v) :
    v.2 = w.2 := hl.eq_of_log (p := Prod.snd) fun _ _ _ => rfl

/-- A call is written down with what came of it. -/
theorem calls_of_render {h : Host ω} {e : Equation} {w v : ω × List Call}
    {r : Except Failure (Option Text)} (hr : h.traced.render e w = (r, v)) :
    v.2 = w.2 ++ [⟨e, r⟩] := by
  obtain ⟨rfl, rfl⟩ := Prod.mk.inj hr
  rfl

/-- The logger takes every message. -/
def NeverRefuses (h : Host ω) : Prop := ∀ severity t w, (h.log severity t w).1 = .ok ()

/-- The logger refuses some message with the given failure. -/
def Refuses (h : Host ω) (f : Failure) : Prop :=
  ∃ severity t w, (h.log severity t w).1 = .error f

theorem NeverRefuses.not_refuses {h : Host ω} (hq : h.NeverRefuses) (f : Failure) :
    ¬ h.Refuses f := fun ⟨severity, t, w, hf⟩ => by
  rw [hq severity t w] at hf
  cases hf

theorem NeverRefuses.traced {h : Host ω} (hq : h.NeverRefuses) : h.traced.NeverRefuses :=
  fun severity t w => hq severity t w.1

/-- The record refuses nothing itself. -/
theorem Refuses.of_traced {h : Host ω} {f : Failure} (hf : h.traced.Refuses f) : h.Refuses f :=
  let ⟨severity, t, w, hw⟩ := hf
  ⟨severity, t, w.1, hw⟩

/-- Apart from log messages an action only gives a result, unless one of them is refused. -/
def Computes {α : Type} (h : Host ω) (a : Action ω α) (e : Except Failure α) : Prop :=
  ∀ w, h.Logged w (a w).2 ∧ ((a w).1 = e ∨ ∃ f, (a w).1 = .error f ∧ h.Refuses f)

section Computes

variable {α β : Type} {h : Host ω} {a : Action ω α} {e : Except Failure α}

theorem computes_log (severity : Severity) (t : Text) : h.Computes (h.log severity t) (.ok ()) := by
  intro w
  refine ⟨logged_log h severity t w, ?_⟩
  cases hr : (h.log severity t w).1 with
  | error f => exact Or.inr ⟨f, rfl, severity, t, w, hr⟩
  | ok x => exact Or.inl rfl

theorem computes_ofExcept (e : Except Failure α) : h.Computes (Action.ofExcept e) e :=
  fun w => ⟨.refl w, Or.inl rfl⟩

theorem computes_pure (x : α) : h.Computes (pure x) (.ok x) := computes_ofExcept (.ok x)

theorem computes_fail (f : Failure) : h.Computes (Action.fail f : Action ω α) (.error f) :=
  computes_ofExcept (.error f)

theorem Computes.bind {k : α → Action ω β} {g : α → Except Failure β} (ha : h.Computes a e)
    (hk : ∀ x, h.Computes (k x) (g x)) : h.Computes (a >>= k) (e >>= g) := by
  intro w
  obtain ⟨hlogged, hr⟩ := ha w
  rcases haw : a w with ⟨f | x, v⟩ <;> rw [haw] at hlogged hr
  · rw [Action.bind_of_error haw]
    refine ⟨hlogged, ?_⟩
    rcases hr with rfl | ⟨f', hf, hrefused⟩
    · exact Or.inl rfl
    · exact Or.inr ⟨f, rfl, by rwa [Except.error.inj hf]⟩
  · rw [Action.bind_of_ok haw]
    obtain rfl : Except.ok x = e := hr.resolve_right (by simp)
    obtain ⟨hlogged', hr'⟩ := hk x v
    exact ⟨hlogged.trans hlogged', hr'⟩

/-- A message in front of an action. -/
theorem Computes.after_log {severity : Severity} {t : Text} {k : Unit → Action ω α}
    (hk : ∀ x, h.Computes (k x) e) : h.Computes (h.log severity t >>= k) e := by
  show h.Computes _ (Except.ok () >>= fun _ => e)
  exact (computes_log severity t).bind hk

theorem Computes.of_ok (ha : h.Computes a e) {w v : ω} {x : α} (hw : a w = (.ok x, v)) :
    e = .ok x ∧ h.Logged w v := by
  obtain ⟨hlogged, hr⟩ := ha w
  rw [hw] at hlogged hr
  exact ⟨(hr.resolve_right (by simp)).symm, hlogged⟩

theorem Computes.of_error (ha : h.Computes a e) {w v : ω} {f : Failure}
    (hw : a w = (.error f, v)) : (e = .error f ∨ h.Refuses f) ∧ h.Logged w v := by
  obtain ⟨hlogged, hr⟩ := ha w
  rw [hw] at hlogged hr
  refine ⟨hr.imp Eq.symm ?_, hlogged⟩
  rintro ⟨f', hf, hrefused⟩
  rwa [Except.error.inj hf]

/-- The result is there if the logger takes every message. -/
theorem Computes.exists_eq (ha : h.Computes a e) (hq : h.NeverRefuses) (w : ω) :
    ∃ v, a w = (e, v) ∧ h.Logged w v := by
  obtain ⟨hlogged, hr⟩ := ha w
  refine ⟨(a w).2, Prod.ext (hr.resolve_right ?_) rfl, hlogged⟩
  rintro ⟨f, -, hrefused⟩
  exact hq.not_refuses f hrefused

end Computes

/-- What the renderer answers depends on the equation only. -/
def IsPure (h : Host ω) : Prop :=
  ∃ f : Equation → Except Failure (Option Text), ∀ e w, (h.render e w).1 = f e

/-- The renderer never fails. -/
def Answers (h : Host ω) : Prop := ∀ e w, ∃ html, (h.render e w).1 = .ok html

end Host

/-! ### Records -/

/-- Between two records calls were made, and one that failed has ended all with its failure. -/
def Recorded (before after : List Call) (ended : Failure → Prop) : Prop :=
  ∃ calls, after = before ++ calls ∧ ∀ c ∈ calls, ∀ f, c.outcome = .error f → ended f

variable {ω : Type} {before middle after : List Call} {ended ended' : Failure → Prop}

theorem Recorded.refl (l : List Call) : Recorded l l ended := ⟨[], by simp, by simp⟩

theorem Recorded.trans (hb : Recorded before middle ended) (ha : Recorded middle after ended) :
    Recorded before after ended := by
  obtain ⟨calls, rfl, hcalls⟩ := hb
  obtain ⟨calls', rfl, hcalls'⟩ := ha
  refine ⟨calls ++ calls', List.append_assoc .., fun c hc => ?_⟩
  rcases List.mem_append.1 hc with hc | hc
  · exact hcalls c hc
  · exact hcalls' c hc

theorem Recorded.imp (hr : Recorded before after ended) (hi : ∀ f, ended f → ended' f) :
    Recorded before after ended' := by
  obtain ⟨calls, hafter, hcalls⟩ := hr
  exact ⟨calls, hafter, fun c hc f hf => hi f (hcalls c hc f hf)⟩

/-- Log messages are no calls. -/
theorem recorded_of_logged {h : Host ω} {w v : ω × List Call} (hl : h.traced.Logged w v) :
    Recorded w.2 v.2 ended := by
  rw [Host.calls_of_logged hl]
  exact .refl _

/-- An action makes calls inside a generator, and one that fails ends it with what its failure
becomes beyond that. -/
def Host.Records {α : Type} (a : Action (ω × List Call) α) : Prop :=
  ∀ w, Recorded w.2 (a w).2.2 fun f => (a w).1 = .error (f.beyond .generator)

theorem Host.log_records (h : Host ω) (severity : Severity) (t : Text) :
    Host.Records (h.traced.log severity t) := fun w =>
  recorded_of_logged (h.traced.logged_log severity t w)

theorem Host.Records.bind {α β : Type} {a : Action (ω × List Call) α}
    {k : α → Action (ω × List Call) β} (ha : Host.Records a) (hk : ∀ x, Host.Records (k x)) :
    Host.Records (a >>= k) := by
  intro w
  have hfirst := ha w
  rcases haw : a w with ⟨f | x, v⟩ <;> rw [haw] at hfirst
  · rw [Action.bind_of_error haw]
    exact hfirst.imp fun _ hf => congrArg Except.error (Except.error.inj hf)
  · rw [Action.bind_of_ok haw]
    exact (hfirst.imp fun f hf => by cases hf).trans (hk x v)

end MathPage
