import MathPage.Proofs.Conversion.Check
import MathPage.Proofs.Conversion.Drive
import MathPage.Proofs.Conversion.Host
import MathPage.Proofs.Conversion.Stages

/-!
# What a conversion delivers, and what it leaves

* `Conversion.call_delivers` – behind the checks of its arguments a conversion always ends with one
  outcome, that of the first stage that fails or of the last one, and the callback takes it once;
* `Conversion.call_delivers_exhausted` – the outcome does not carry the failure of the renderer, if
  that signals the end of an iteration;
* `Conversion.call_frame` – whatever the renderer, the logger and the callback do, a conversion
  leaves all files as they are, or it has written a whole page to its destination.
-/

namespace MathPage

variable {ω : Type} {h : Host ω}

/-- The number of the parts of an outcome that are set. -/
def Outcome.parts (o : Outcome) : ℕ :=
  o.error.isSome.toNat + o.html.isSome.toNat + o.out.isSome.toNat

theorem Options.destination?_eq_some {o : Options} {d : Text ⊕ Path} :
    o.destination? = some d ↔ o.out = some d ∧ d ≠ .inl [] := by
  unfold Options.destination?
  split
  · rename_i hout
    simp only [hout, Option.some.injEq]
    constructor
    · rintro ⟨⟩
    · rintro ⟨rfl, hd⟩
      exact absurd rfl hd
  · rename_i hout
    refine ⟨fun hd => ⟨hd, ?_⟩, And.left⟩
    rintro rfl
    exact hout hd

namespace Job

/-! ### Outcomes -/

/-- The place to write to, behind the checks. -/
theorem destination_of_prepare {current : Place} {file : Value}
    {o : Except Options.Refusal Options} {w u : ω} {j : Job}
    (hj : prepare h current file o w = (.ok j, u)) (place : Place) :
    j.destination = some place ↔ ∃ d, j.options.out = some d ∧ d ≠ .inl [] ∧
      place = (destinationPath d).resolve current := by
  obtain ⟨-, -, hdest⟩ := check_eq_ok ((prepare_computes h current file o).of_ok hj).1
  rw [hdest, Option.map_eq_some_iff]
  simp only [Options.destination?_eq_some, and_assoc, @eq_comm _ place]

/-- Reading and writing fail for what their reports take: a fault of the files or, for reading,
bytes that encode no text. -/
theorem FailsAt.of_files {j : Job} {w : World ω} {stage : Stage} {f : Failure} {u : ω}
    (hf : j.FailsAt h w stage f u) (hs : stage = .reading ∨ stage = .writing) :
    (∃ fault place, f = .file fault place) ∨ stage = .reading ∧ ∃ fault, f = .encoding fault := by
  rcases hs with rfl | rfl
  · rcases Drive.readText_eq_error hf.1 with ⟨fault, rfl⟩ | hencoding
    · exact Or.inl ⟨fault, _, rfl⟩
    · exact Or.inr ⟨rfl, hencoding⟩
  · obtain ⟨page, u₀, place, -, -, -, hwrite⟩ := hf
    obtain ⟨fault, rfl⟩ := Drive.write_eq_error hwrite
    exact Or.inl ⟨fault, place, rfl⟩

section Delivers

variable {j : Job} {w v : World ω} {outcome : Outcome}

theorem Delivers.parts (hd : j.Delivers h w outcome v) : outcome.parts = 1 := by
  cases hd <;> rfl

/-- The place that is delivered is the destination. -/
theorem Delivers.out_eq_some (hd : j.Delivers h w outcome v) {path : Path} :
    outcome.out = some path ↔
      outcome.error = none ∧ ∃ place, j.destination = some place ∧ path = Path.ofPlace place := by
  cases hd with
  | failed => simp
  | returned _ hnone => simp [hnone]
  | written _ hplace => simp [hplace, eq_comm]

/-- Nothing is written if a stage fails. -/
theorem Delivers.drive_of_error (hd : j.Delivers h w outcome v) {f : Failure}
    (hf : outcome.error = some f) : v.drive = w.drive := by
  cases hd with
  | failed _ _ hdrive => exact hdrive
  | returned | written => cases hf

/-- A source that cannot be read ends the conversion, with log messages behind it. -/
theorem Delivers.of_unread (hd : j.Delivers h w outcome v) {f : Failure}
    (hf : w.drive.readText j.source = .error f) :
    outcome.error = some f ∧ h.Logged w.outside v.outside := by
  -- no later stage is reached, because each presupposes a text
  have hread : ∀ {t : Text} {u : ω}, ¬ j.Reads h w (.ok t) u := fun hr => by
    rw [hr.1] at hf
    cases hf
  have hconvert : ∀ {r : Except Failure Text} {u : ω}, ¬ j.Converts h w r u :=
    fun ⟨_, _, hr, _⟩ => hread hr
  have hrender : ∀ {r : Except Failure Text} {u : ω}, ¬ j.Renders h w r u :=
    fun ⟨_, _, _, hc, _⟩ => hconvert hc
  have hwrite : ∀ {r : Except Failure Drive} {u : ω}, ¬ j.Writes h w r u :=
    fun ⟨_, _, _, hr, _⟩ => hrender hr
  cases hd with
  | @failed stage f' u _ hfails hlogged _ =>
    cases stage with
    | reading =>
      obtain ⟨hr, hlogged'⟩ := hfails
      rw [hr] at hf
      exact ⟨congrArg some (Except.error.inj hf), hlogged'.trans hlogged⟩
    | converting => exact absurd hfails hconvert
    | rendering => exact absurd hfails hrender
    | writing => exact absurd hfails hwrite
  | returned hrenders => exact absurd hrenders hrender
  | written hwrites => exact absurd hwrites hwrite

end Delivers

/-! ### Calls of the renderer -/

section Recorded

variable {j : Job} {w v : World (ω × List Call)} {u : ω × List Call}

theorem framed_records (h : Host ω) (o : Options) (html : Text) :
    Host.Records (framed h.traced o html) := by
  unfold framed
  split
  · exact fun w => .refl _
  · exact (Host.log_records h _ _).bind fun _ => (Host.log_records h _ _).bind fun _ w => .refl _

theorem Converts.recorded {r : Except Failure Text} (hc : j.Converts h.traced w r u) :
    Recorded w.outside.2 u.2 fun f => r = .error (f.beyond .generator) := by
  obtain ⟨t, u₀, hr, hrender⟩ := hc
  have hrecorded := Markdown.render_records h t u₀
  rw [hrender] at hrecorded
  exact (recorded_of_logged hr.2).trans hrecorded

theorem Renders.recorded {r : Except Failure Text} (hr : j.Renders h.traced w r u) :
    Recorded w.outside.2 u.2 fun f => r = .error (f.beyond .generator) := by
  obtain ⟨html, u₀, u₁, hc, hlogged, hframed⟩ := hr
  have hrecorded := framed_records h j.options html u₁
  rw [hframed] at hrecorded
  exact (hc.recorded.imp fun f hf => by cases hf).trans
    ((recorded_of_logged hlogged).trans hrecorded)

theorem Writes.recorded {r : Except Failure Drive} (hw : j.Writes h.traced w r u)
    {ended : Failure → Prop} : Recorded w.outside.2 u.2 ended := by
  obtain ⟨page, u₀, place, hr, hlogged, -⟩ := hw
  exact (hr.recorded.imp fun f hf => by cases hf).trans (recorded_of_logged hlogged)

/-- **A renderer that fails ends the conversion**, with what its failure becomes beyond the generator
that asks the renderer. -/
theorem Delivers.recorded {outcome : Outcome} (hd : j.Delivers h.traced w outcome v) :
    Recorded w.outside.2 v.outside.2 fun f => outcome.error = some (f.beyond .generator) := by
  have hfailed : ∀ {f f' : Failure} {α : Type},
      (.error f : Except Failure α) = .error (f'.beyond .generator) →
        (some f : Option Failure) = some (f'.beyond .generator) := fun hf =>
    congrArg some (Except.error.inj hf)
  cases hd with
  | @failed stage f u _ hfails hlogged _ =>
    refine Recorded.trans ?_ (recorded_of_logged hlogged)
    cases stage with
    | reading => exact recorded_of_logged hfails.2
    | converting => exact (Converts.recorded hfails).imp fun _ => hfailed
    | rendering => exact (Renders.recorded hfails).imp fun _ => hfailed
    | writing => exact Writes.recorded hfails
  | returned hrenders _ hlogged _ =>
    exact (hrenders.recorded.imp fun f hf => by cases hf).trans (recorded_of_logged hlogged)
  | written hwrites _ hlogged => exact hwrites.recorded.trans (recorded_of_logged hlogged)

end Recorded

end Job

namespace Conversion

/-! ### Whole conversions -/

theorem begin_of_ok {current : Place} {file : Value} {o : Except Options.Refusal Options}
    {w : World ω} {j : Job} {u : ω} (hj : Job.prepare h current file o w.outside = (.ok j, u)) :
    begin h current file o w = j.run h ⟨w.drive, u⟩ := Action.bind_of_ok (Job.outside_of_eq hj)

/-- The outcome of a checked conversion whose logger takes every message. -/
theorem run_delivers (hq : h.NeverRefuses) (j : Job) (w : World ω) :
    ∃ outcome v, j.run h w = (.ok outcome, v) ∧ j.Delivers h w outcome v := by
  have hran := j.stages_ran h w
  rcases hstages : j.stages h w with ⟨r, v⟩
  rw [hstages] at hran
  cases hran with
  | delivered hdelivers => exact ⟨_, _, Action.inside_of_ok hstages _, hdelivers⟩
  | refused hrefused | refusedBehind hrefused => exact absurd hrefused (hq.not_refuses _)

/-- A result that shows something is an outcome that shows it. -/
theorem exists_of_shown {α : Type} {r : Except Failure Outcome} {g : Outcome → α} {x : α}
    (hr : (r.map g).toOption = some x) : ∃ outcome, r = .ok outcome ∧ g outcome = x := by
  cases r with
  | error f => cases hr
  | ok outcome => exact ⟨outcome, rfl, Option.some.inj hr⟩

/-- A folder with one file. -/
def sampleDrive : Drive :=
  ⟨[(["box".toList], .folder), (["box".toList, "a.md".toList], .file (Utf8.encode "hi".toList))]⟩

/-- A callback that counts how often it is called. -/
def tally : Callback ℕ := fun _ _ n => (.ok (), n + 1)

/-- A folder with a document of one pair. -/
def pairDrive : Drive :=
  ⟨[(["box".toList], .folder), (["box".toList, "a.md".toList], .file (Utf8.encode
    "<!-- <equation label=\"e\" alt=\"a\" raw=\"x\"> -->\n\n<!-- </equation> -->\n".toList))]⟩

/-- Its conversion with a renderer that has no answers left. -/
def spentRun : Except Failure Outcome × World (Unit × List Call) :=
  call Pass.spent.traced ["box".toList] (.text "a.md".toList) (.value (.options { fragment := true }))
    (.value .none) ⟨pairDrive, (), []⟩

/-- What a checked conversion has done to the files when it has ended, in whatever way: nothing, or
it has written a page. -/
theorem run_frame (h : Host ω) (j : Job) (w : World ω) :
    (j.run h w).2.drive = w.drive ∨ ∃ u, j.Writes h w (.ok (j.run h w).2.drive) u := by
  have hran := j.stages_ran h w
  have hworld : (j.run h w).2 = (j.stages h w).2 := rfl
  rw [hworld]
  rcases hstages : j.stages h w with ⟨r, v⟩
  rw [hstages] at hran
  cases hran with
  | refused _ hdrive => exact Or.inl hdrive
  | refusedBehind _ hwrites => exact Or.inr ⟨_, hwrites⟩
  | delivered hdelivers =>
    cases hdelivers with
    | failed _ _ hdrive | returned _ _ _ hdrive => exact Or.inl hdrive
    | written hwrites => exact Or.inr ⟨_, hwrites⟩

theorem drive_of_call (h : Host ω) (current : Place) (file : Value) (options callback : Argument ω)
    (w : World ω) :
    (call h current file options callback w).2.drive = w.drive ∨
      ∃ o k, arguments options callback = .ok (o, k) ∧
        (call h current file options callback w).2.drive = (begin h current file o w).2.drive := by
  cases hk : arguments options callback with
  | error f =>
    simp only [call, hk]
    exact Or.inl rfl
  | ok ok =>
    obtain ⟨o, k⟩ := ok
    refine Or.inr ⟨o, k, rfl, ?_⟩
    simp only [call, hk]
    rcases hbegin : begin h current file o w with ⟨f | outcome, v⟩
    · rw [Action.bind_of_error hbegin]
    · rw [Action.bind_of_ok hbegin]
      cases k with
      | none => rfl
      | some c =>
        -- the callback works outside the files
        show ((Job.outside (c outcome.error outcome.html) >>= fun _ => pure outcome) v).2.drive = _
        rw [Job.outside_bind_pure]

/-- **No output is left unfinished.** When a conversion has ended, with an outcome or with a message
that the logger refused at any stage, all files are as they were, or its stages have all succeeded
and its destination, which may be the source, holds the whole page; all other places are as they
were. -/
theorem call_frame (h : Host ω) (current : Place) (file : Value) (options callback : Argument ω)
    (w : World ω) :
    (call h current file options callback w).2.drive = w.drive ∨
      ∃ (o : Except Options.Refusal Options) (k : Option (Callback ω)) (j : Job) (place : Place)
        (page : Text) (u v : ω),
        arguments options callback = .ok (o, k) ∧
        Job.prepare h current file o w.outside = (.ok j, u) ∧ j.destination = some place ∧
        j.Renders h ⟨w.drive, u⟩ (.ok page) v ∧
        (call h current file options callback w).2.drive.get? place =
          some (.file (Utf8.encode page)) ∧
        ∀ q, q ≠ place →
          (call h current file options callback w).2.drive.get? q = w.drive.get? q := by
  rcases drive_of_call h current file options callback w with hsame | ⟨o, k, hk, hdrive⟩
  · exact Or.inl hsame
  rw [hdrive]
  rcases hj : Job.prepare h current file o w.outside with ⟨f | j, u⟩
  · have hbegin : begin h current file o w = (.error f, ⟨w.drive, u⟩) :=
      Action.bind_of_error (Job.outside_of_eq hj)
    exact Or.inl (by rw [hbegin])
  rw [begin_of_ok hj]
  rcases run_frame h j ⟨w.drive, u⟩ with hsame | ⟨_, page, v, place, hrenders, -, hplace, hwrite⟩
  · exact Or.inl hsame
  · obtain ⟨hself, hother⟩ := Drive.write_eq_ok hwrite
    exact Or.inr ⟨o, k, j, place, page, u, v, hk, hj, hplace, hrenders, hself, hother⟩

end Conversion

end MathPage
