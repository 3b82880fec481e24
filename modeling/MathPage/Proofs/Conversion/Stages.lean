import MathPage.Conversion.Job
import MathPage.Proofs.Equation.Host

/-!
# The stages of a conversion

* `Job.Reads`, `Job.Converts`, `Job.Renders`, `Job.Writes` – a stage is reached and gives a result or
  fails: each presupposes that the one in front of it has succeeded;
* `Job.FailsAt` – the stage that is the first to fail;
* `Job.Delivers` – an outcome, with the files and the outside behind it;
* `Job.Ran` – the ways in which the stages end, for any host.

A stage hands on its result or delivers its failure, and beside that it only logs. What it does to
the world is therefore told by `Host.Computes` for the host that logs beside the files
(`Host.onWorld`), and the stages are one case distinction after the other (`Job.stages_ran`).
-/

namespace MathPage

variable {ω α β : Type} {h : Host ω}

namespace Host

/-- The host beside the files. -/
def onWorld (h : Host ω) : Host (World ω) where
  render e := Job.outside (h.render e)
  log severity t := Job.outside (h.log severity t)

/-- Log messages leave the files as they are. -/
theorem logged_onWorld {w v : World ω} (hl : h.onWorld.Logged w v) :
    v.drive = w.drive ∧ h.Logged w.outside v.outside := by
  induction hl with
  | refl => exact ⟨rfl, .refl _⟩
  | step severity t _ ih => exact ⟨ih.1, .step severity t ih.2⟩

theorem Refuses.of_onWorld {f : Failure} (hf : h.onWorld.Refuses f) : h.Refuses f :=
  let ⟨severity, t, w, hw⟩ := hf
  ⟨severity, t, w.outside, hw⟩

end Host

namespace Job

/-! ### Actions outside the files -/

theorem outside_of_eq {a : Action ω α} {w : World ω} {r : Except Failure α} {v : ω}
    (ha : a w.outside = (r, v)) : outside a w = (r, ⟨w.drive, v⟩) := by
  simp only [outside, Action.onPart, ha]

/-- An action outside the files and a result behind it. -/
theorem outside_bind_pure (a : Action ω α) (y : β) (w : World ω) :
    (outside a >>= fun _ => pure y) w =
      ((a w.outside).1.map fun _ => y, ⟨w.drive, (a w.outside).2⟩) := by
  rcases ha : a w.outside with ⟨f | x, v⟩
  · exact Action.bind_of_error (outside_of_eq ha)
  · exact Action.bind_of_ok (outside_of_eq ha)

/-! ### Results of the stages -/

/-- The page of converted text, which is the text itself if a fragment is wanted. -/
def framed (h : Host ω) (o : Options) (html : Text) : Action ω Text :=
  if o.fragment then Action.result html else Page.render h (View.ofOptions o html)

/-- Reading gives `r`. -/
def Reads (h : Host ω) (j : Job) (w : World ω) (r : Except Failure Text) (v : ω) : Prop :=
  w.drive.readText j.source = r ∧ h.Logged w.outside v

/-- Reading succeeds, and converting the text gives `r`. -/
def Converts (h : Host ω) (j : Job) (w : World ω) (r : Except Failure Text) (v : ω) : Prop :=
  ∃ t u, j.Reads h w (.ok t) u ∧ Markdown.render h t u = (r, v)

/-- Converting succeeds, and putting the text on its page gives `r`. -/
def Renders (h : Host ω) (j : Job) (w : World ω) (r : Except Failure Text) (v : ω) : Prop :=
  ∃ html u u', j.Converts h w (.ok html) u ∧ h.Logged u u' ∧ framed h j.options html u' = (r, v)

/-- There is a page and a place for it, and writing it there gives `r`. -/
def Writes (h : Host ω) (j : Job) (w : World ω) (r : Except Failure Drive) (v : ω) : Prop :=
  ∃ page u place, j.Renders h w (.ok page) u ∧ h.Logged u v ∧ j.destination = some place ∧
    w.drive.write place (Utf8.encode page) = r

/-- The stage fails, and it is the first one: those in front of it have succeeded. -/
def FailsAt (h : Host ω) (j : Job) (w : World ω) : Stage → Failure → ω → Prop
  | .reading, f, v => j.Reads h w (.error f) v
  | .converting, f, v => j.Converts h w (.error f) v
  | .rendering, f, v => j.Renders h w (.error f) v
  | .writing, f, v => j.Writes h w (.error f) v

/-! ### Ends -/

/-- What a conversion delivers, and the world behind it: the failure of the first stage that fails,
the page, or the place that the page was written to. -/
inductive Delivers (h : Host ω) (j : Job) (w : World ω) : Outcome → World ω → Prop where
  | failed {stage : Stage} {f : Failure} {u : ω} {v : World ω} (hfails : j.FailsAt h w stage f u)
    (hlogged : h.Logged u v.outside) (hdrive : v.drive = w.drive) :
    Delivers h j w { error := some f } v
  | returned {page : Text} {u : ω} {v : World ω} (hrenders : j.Renders h w (.ok page) u)
    (hnone : j.destination = none) (hlogged : h.Logged u v.outside) (hdrive : v.drive = w.drive) :
    Delivers h j w { html := some page } v
  | written {place : Place} {u : ω} {v : World ω} (hwrites : j.Writes h w (.ok v.drive) u)
    (hplace : j.destination = some place) (hlogged : h.Logged u v.outside) :
    Delivers h j w { out := some (Path.ofPlace place) } v

/-- How the stages end: with an outcome, or with a message that the logger refused, before the
page was written or behind that. -/
inductive Ran (h : Host ω) (j : Job) (w : World ω) : Except Failure Outcome × World ω → Prop where
  | delivered {outcome : Outcome} {v : World ω} (hdelivers : j.Delivers h w outcome v) :
    Ran h j w (.ok outcome, v)
  | refused {f : Failure} {v : World ω} (hrefused : h.Refuses f) (hdrive : v.drive = w.drive) :
    Ran h j w (.error f, v)
  | refusedBehind {f : Failure} {u : ω} {v : World ω} (hrefused : h.Refuses f)
    (hwrites : j.Writes h w (.ok v.drive) u) : Ran h j w (.error f, v)

/-! ### Reports -/

/-- The result of a stage as it is handed on: a failure is delivered. -/
def handedOn (r : Except Failure α) : Except Outcome α := r.mapError fun f => { error := some f }

theorem note_computes (h : Host ω) (t : String) : h.onWorld.Computes (note h t) (.ok ()) :=
  Host.computes_log (h := h.onWorld) .debug t.toList

theorem failed_computes (h : Host ω) (stage : Stage) (f : Failure) :
    h.onWorld.Computes (failed h stage f) (.ok { error := some f }) :=
  Host.Computes.after_log (h := h.onWorld) fun _ => Host.computes_pure _

theorem failed_handedOn (h : Host ω) (stage : Stage) (f : Failure) :
    h.onWorld.Computes (do return .error (← failed h stage f))
      (.ok (handedOn (.error f : Except Failure α))) :=
  (failed_computes h stage f).bind fun _ => Host.computes_pure _

theorem loaded_computes (h : Host ω) (r : Except Failure Text) :
    h.onWorld.Computes (loaded h r) (.ok (handedOn r)) := by
  cases r with
  | error f => exact failed_handedOn h .reading f
  | ok t => exact (note_computes h _).bind fun _ => Host.computes_pure _

/-! ### Runs -/

variable {j : Job} {w u : World ω}

/-- A run goes on behind log messages, unless one is refused. -/
theorem Ran.of_computes {x : α} {a : Action (World ω) α} {k : α → Action (World ω) Outcome}
    (ha : h.onWorld.Computes a (.ok x))
    (hrefused : ∀ f v, h.Refuses f → v.drive = u.drive → Ran h j w (.error f, v))
    (hk : ∀ v, h.onWorld.Logged u v → Ran h j w (k x v)) : Ran h j w ((a >>= k) u) := by
  obtain ⟨hlogged, hr⟩ := ha u
  rcases hau : a u with ⟨f | y, v⟩ <;> rw [hau] at hlogged hr
  · rw [Action.bind_of_error hau]
    obtain ⟨f', hf, hf'⟩ := hr.resolve_left (by simp)
    rw [Except.error.inj hf]
    exact hrefused f' v hf'.of_onWorld (Host.logged_onWorld hlogged).1
  · rw [Action.bind_of_ok hau]
    obtain rfl : y = x := Except.ok.inj (hr.resolve_right (by simp))
    exact hk v hlogged

/-- The same as long as nothing is written. -/
theorem Ran.of_bind {x : α} {a : Action (World ω) α} {k : α → Action (World ω) Outcome}
    (ha : h.onWorld.Computes a (.ok x)) (hdrive : u.drive = w.drive)
    (hk : ∀ v, h.onWorld.Logged u v → Ran h j w (k x v)) : Ran h j w ((a >>= k) u) :=
  .of_computes ha (fun _ _ hf hv => .refused hf (hv.trans hdrive)) hk

/-- A run goes on with the result of a stage, or it delivers its failure. -/
theorem Ran.of_stage {r : Except Failure α} {a : Action (World ω) (Except Outcome α)}
    {k : α → Action (World ω) Outcome} (ha : h.onWorld.Computes a (.ok (handedOn r)))
    (hdrive : u.drive = w.drive)
    (hfails : ∀ f, r = .error f → ∃ stage, j.FailsAt h w stage f u.outside)
    (hk : ∀ x v, r = .ok x → h.Logged u.outside v.outside → v.drive = w.drive → Ran h j w (k x v)) :
    Ran h j w ((a >>= fun r => unlessDelivered r k) u) := by
  refine Ran.of_bind ha hdrive fun v hv => ?_
  obtain ⟨hdrive', hlogged⟩ := Host.logged_onWorld hv
  cases r with
  | error f =>
    obtain ⟨stage, hstage⟩ := hfails f rfl
    exact .delivered (.failed hstage hlogged (hdrive'.trans hdrive))
  | ok x => exact hk x v rfl hlogged (hdrive'.trans hdrive)

/-- The same for a stage that works outside the files, with its report. -/
theorem Ran.of_attempt {a : Action ω α}
    {report : Except Failure α → Action (World ω) (Except Outcome α)}
    {k : α → Action (World ω) Outcome}
    (hreport : ∀ r, h.onWorld.Computes (report r) (.ok (handedOn r))) (hdrive : u.drive = w.drive)
    (hfails : ∀ f v, a u.outside = (.error f, v) → ∃ stage, j.FailsAt h w stage f v)
    (hk : ∀ x v v', a u.outside = (.ok x, v) → h.Logged v v'.outside → v'.drive = w.drive →
      Ran h j w (k x v')) :
    Ran h j w (((outside a).attempt >>= report >>= fun r => unlessDelivered r k) u) := by
  rcases hr : a u.outside with ⟨r, v⟩
  have hstep : (outside a).attempt u = (.ok r, ⟨u.drive, v⟩) := by
    simp only [Action.attempt, outside_of_eq hr]
  rw [Action.bind_assoc, Action.bind_of_ok hstep]
  exact Ran.of_stage (hreport r) hdrive (fun f hf => hfails f v (by rw [hr, hf]))
    fun x v' hx hlogged hdrive' => hk x v v' (by rw [hr, hx]) hlogged hdrive'

/-- Nothing is written to behind a page, or the page. -/
theorem store_ran {page : Text} {v : ω} (hrenders : j.Renders h w (.ok page) v)
    (hlogged : h.Logged v u.outside) (hdrive : u.drive = w.drive) :
    Ran h j w (store h j.destination page u) := by
  cases hplace : j.destination with
  | none => exact .delivered (.returned hrenders hplace hlogged hdrive)
  | some place =>
    refine Ran.of_bind (note_computes h _) hdrive fun v₁ hv₁ => ?_
    obtain ⟨hdrive₁, hlogged₁⟩ := Host.logged_onWorld hv₁
    have hdrive₁ : v₁.drive = w.drive := hdrive₁.trans hdrive
    have hwrites : j.Writes h w (v₁.drive.write place (Utf8.encode page)) v₁.outside :=
      ⟨page, v, place, hrenders, hlogged.trans hlogged₁, hplace, by rw [hdrive₁]⟩
    cases hwrite : v₁.drive.write place (Utf8.encode page) with
    | error f =>
      rw [hwrite] at hwrites
      have hstep : write? page place v₁ = (.ok (.error f), v₁) := by simp only [write?, hwrite]
      rw [Action.bind_of_ok hstep]
      refine Ran.of_bind (Host.computes_log (h := h.onWorld) _ _) hdrive₁ fun v₂ hv₂ => ?_
      obtain ⟨hdrive₂, hlogged₂⟩ := Host.logged_onWorld hv₂
      have hfails : j.FailsAt h w .writing f v₁.outside := hwrites
      exact .delivered (.failed hfails hlogged₂ (hdrive₂.trans hdrive₁))
    | ok d =>
      rw [hwrite] at hwrites
      have hstep : write? page place v₁ = (.ok (.ok ()), ⟨d, v₁.outside⟩) := by
        simp only [write?, hwrite]
      rw [Action.bind_of_ok hstep]
      -- the files have changed: a message that is refused now is one behind the write
      refine Ran.of_computes (note_computes h _) (fun f v₂ hf hv₂ => ?_) fun v₂ hv₂ => ?_
      · obtain rfl : v₂.drive = d := hv₂
        exact .refusedBehind hf hwrites
      · obtain ⟨hdrive₂, hlogged₂⟩ := Host.logged_onWorld hv₂
        obtain rfl : v₂.drive = d := hdrive₂
        exact .delivered (.written hwrites hplace hlogged₂)

/-- Putting converted text on its page, and what follows. -/
theorem page_ran {html : Text} {v : ω} (hconverts : j.Converts h w (.ok html) v)
    (hlogged : h.Logged v u.outside) (hdrive : u.drive = w.drive) :
    Ran h j w ((page h j.options html >>= fun r =>
      unlessDelivered r (store h j.destination)) u) := by
  have hrenders : ∀ r u', framed h j.options html u.outside = (r, u') → j.Renders h w r u' :=
    fun r u' hr => ⟨html, v, u.outside, hconverts, hlogged, hr⟩
  by_cases hfragment : j.options.fragment = true
  -- a fragment passes this stage without a report
  · rw [framed, if_pos hfragment] at hrenders
    rw [page, if_pos hfragment]
    exact store_ran (hrenders _ _ rfl) (.refl _) hdrive
  · rw [framed, if_neg hfragment] at hrenders
    rw [page, if_neg hfragment]
    refine Ran.of_attempt (fun r => ?_) hdrive (fun f v hf => ⟨.rendering, hrenders _ _ hf⟩)
      fun t v v' ht hlogged' hdrive' => store_ran (hrenders _ _ ht) hlogged' hdrive'
    cases r with
    | error f => exact failed_handedOn h .rendering f
    | ok t => exact Host.computes_pure _

/-- Converting a text, and what follows. -/
theorem fragment_ran {t : Text} {v : ω} (hreads : j.Reads h w (.ok t) v)
    (hlogged : h.Logged v u.outside) (hdrive : u.drive = w.drive) :
    Ran h j w ((fragment h t >>= fun r => unlessDelivered r fun html => do
      unlessDelivered (← page h j.options html) (store h j.destination)) u) := by
  rw [fragment, Action.bind_assoc]
  refine Ran.of_bind (note_computes h _) hdrive fun v₁ hv₁ => ?_
  obtain ⟨hdrive₁, hlogged₁⟩ := Host.logged_onWorld hv₁
  have hconverts : ∀ r u', Markdown.render h t v₁.outside = (r, u') → j.Converts h w r u' :=
    fun r u' hr => ⟨t, v₁.outside, ⟨hreads.1, hreads.2.trans (hlogged.trans hlogged₁)⟩, hr⟩
  refine Ran.of_attempt (fun r => ?_) (hdrive₁.trans hdrive)
    (fun f v hf => ⟨.converting, hconverts _ _ hf⟩)
    fun html v v' hhtml hlogged' hdrive' => page_ran (hconverts _ _ hhtml) hlogged' hdrive'
  cases r with
  | error f => exact failed_handedOn h .converting f
  | ok html => exact (note_computes h _).bind fun _ => Host.computes_pure _

/-- **The stages deliver an outcome, or the logger refuses a message.** -/
theorem stages_ran (h : Host ω) (j : Job) (w : World ω) : Ran h j w (stages h j w) := by
  rw [stages, read, Action.bind_assoc]
  refine Ran.of_bind (note_computes h _) rfl fun v hv => ?_
  obtain ⟨hdrive, hlogged⟩ := Host.logged_onWorld hv
  -- reading itself neither logs nor changes anything
  show Ran h j w (finish h j (v.drive.readText j.source) v)
  rw [hdrive]
  exact Ran.of_stage (loaded_computes h _) hdrive (fun f hf => ⟨.reading, hf, hlogged⟩)
    fun t v' ht hlogged' hdrive' => fragment_ran ⟨ht, hlogged⟩ hlogged' hdrive'

end Job

end MathPage
