import MathPage.Proofs.Conversion.Received
import MathPage.Proofs.Conversion.Segments

/-!
# What the log says about an outcome

* `Job.Gives` – a stage that is written down: messages that say nothing of its end, and last of all
  its verdict;
* `Job.Reached`, `Job.Stopped` – a conversion whose stages have succeeded so far, and one that a
  stage has ended;
* `Conversion.call_log` – a call that passes its checks ends with an error message exactly if its
  outcome carries an error, and the messages of success are those of the stages that succeeded.

The stages are followed through the host that writes down what it is told. A failure ends the run,
so that its verdict is the last message of the conversion. What the renderer and the callback send
to the same logger is no message of the conversion; it reaches the logger while they are called
(`Received`).
-/

namespace MathPage

variable {ω : Type} {h : Host ω}

namespace Job

open Conversion

variable {α β : Type} {u v w : World (ω × List Event)} {s : Stage}

/-! ### Stages that are written down -/

/-- The world behind a message. -/
def said (h : Host ω) (severity : Severity) (t : Text) (u : World (ω × List Event)) :
    World (ω × List Event) :=
  ⟨u.drive, (h.log severity t u.outside.1).2, u.outside.2 ++ [.said severity t]⟩

theorem outside_log (hq : h.NeverRefuses) (severity : Severity) (t : Text)
    (u : World (ω × List Event)) :
    outside (h.observed.log severity t) u = (.ok (), said h severity t u) :=
  outside_of_eq (Prod.ext (hq _ _ _) rfl)

/-- A stage hands on its result, behind asides and its verdict, and leaves the files as they are. -/
def Gives (s : Stage) (e : Except Failure α)
    (a : Action (World (ω × List Event)) (Except Outcome α)) (u : World (ω × List Event)) : Prop :=
  ∃ v es, a u = (.ok (handedOn e), v) ∧ v.drive = u.drive ∧ (∀ e ∈ es, Event.IsAside e) ∧
    v.outside.2 = u.outside.2 ++ (es ++ ended s (fault? e))

theorem failed_gives (hq : h.NeverRefuses) (s : Stage) (f : Failure) (u : World (ω × List Event)) :
    Gives s (.error f : Except Failure α) (do return .error (← failed h.observed s f)) u := by
  have hfailed : failed h.observed s f u =
      (.ok { error := some f }, said h .error (s.complaint f) u) :=
    Action.bind_of_ok (outside_log hq _ _ u)
  exact ⟨_, [], Action.bind_of_ok hfailed, rfl, by simp, rfl⟩

theorem note_gives (hq : h.NeverRefuses) {t : String} (ht : s.success? = some t.toList) (x : α)
    (u : World (ω × List Event)) :
    Gives s (.ok x) (do note h.observed t; return .ok x) u :=
  ⟨_, [], Action.bind_of_ok (outside_log hq _ _ u), rfl, by simp, by simp [ended, fault?, ht, said]⟩

theorem pure_gives (hs : s.success? = none) (x : α) (u : World (ω × List Event)) :
    Gives s (.ok x) (pure (.ok x)) u := ⟨u, [], rfl, rfl, by simp, by simp [ended, fault?, hs]⟩

/-- Asides in front of a stage. -/
theorem Gives.of_told {e : Except Failure α} {x : β} {a : Action (World (ω × List Event)) β}
    {k : β → Action (World (ω × List Event)) (Except Outcome α)} (ha : a u = (.ok x, v))
    (hdrive : v.drive = u.drive) (ht : h.observed.Told Message u.outside v.outside)
    (hk : Gives s e (k x) v) : Gives s e (a >>= k) u := by
  obtain ⟨es, hes, hasides⟩ := exists_asides ht
  obtain ⟨v', es', hv', hdrive', hasides', hes'⟩ := hk
  refine ⟨v', es ++ es', (Action.bind_of_ok ha).trans hv', hdrive'.trans hdrive, ?_, ?_⟩
  · simpa [or_imp, forall_and] using ⟨hasides, hasides'⟩
  · rw [hes', hes, List.append_assoc, List.append_assoc]

/-- A message in front of a stage. -/
theorem Gives.of_note (hq : h.NeverRefuses) {t : String} (ht : Message t.toList)
    {e : Except Failure α} {a : Action (World (ω × List Event)) (Except Outcome α)}
    (ha : Gives s e a (said h .debug t.toList u)) :
    Gives s e (note h.observed t >>= fun _ => a) u :=
  .of_told (outside_log hq _ _ u) rfl (.said ht (.refl u.outside)) ha

/-- A stage that works outside the files, with its report. -/
theorem Gives.of_attempt {a : Action (ω × List Event) α}
    {report : Except Failure α → Action (World (ω × List Event)) (Except Outcome α)}
    (ha : h.observed.Tells Message id a) (hreport : ∀ r v, Gives s r (report r) v) :
    Gives s (a u.outside).1 ((outside a).attempt >>= report) u := by
  refine .of_told (v := ⟨u.drive, (a u.outside).2⟩) ?_ rfl (ha u.outside) (hreport _ _)
  simp only [Action.attempt, outside, Action.onPart]

theorem loaded_gives (hq : h.NeverRefuses) (r : Except Failure Text) :
    Gives .reading r (loaded h.observed r) u := by
  cases r with
  | error f => exact failed_gives hq .reading f u
  | ok t => exact note_gives hq rfl t u

theorem reading_gives (hq : h.NeverRefuses) (j : Job) (w : World (ω × List Event)) :
    Gives .reading (w.drive.readText j.source) (reading h.observed j) w := by
  rw [reading, read, Action.bind_assoc]
  -- looking the file up is silent
  exact .of_note hq .reading (.of_told (h := h) rfl rfl (.refl _) (loaded_gives hq _))

theorem fragment_gives (hq : h.NeverRefuses) (t : Text) (u : World (ω × List Event)) :
    Gives .converting (htmlOf h.observed t u.outside) (fragment h.observed t) u := by
  refine .of_note hq .converting (.of_attempt (render_tells _ t) fun r v => ?_)
  cases r with
  | error f => exact failed_gives hq .converting f v
  | ok html => exact note_gives hq rfl html v

theorem page_gives (hq : h.NeverRefuses) (o : Options) (html : Text)
    (u : World (ω × List Event)) :
    Gives .rendering (framed h.observed o html u.outside).1 (page h.observed o html) u := by
  by_cases ho : o.fragment = true
  · rw [framed, if_pos ho, page, if_pos ho]
    exact pure_gives rfl html u
  · have hframed := framed_tells h.observed o html
    rw [framed, if_neg ho] at hframed ⊢
    rw [page, if_neg ho]
    refine .of_attempt hframed fun r v => ?_
    cases r with
    | error f => exact failed_gives hq .rendering f v
    | ok t => exact pure_gives rfl t v

/-! ### Whole runs -/

section Runs

variable {a : Action (World (ω × List Event)) (Except Outcome Text)} {done : List Stage}
  {t : Text} {f : Failure} {j : Job}

/-- A conversion that has done some stages and hands on a text. -/
structure Reached (a : Action (World (ω × List Event)) (Except Outcome Text))
    (w : World (ω × List Event)) (done : List Stage) (t : Text) (v : World (ω × List Event)) :
    Prop where
  handed : a w = (.ok (.ok t), v)
  drive : v.drive = w.drive
  told : ∃ es, v.outside.2 = w.outside.2 ++ es ∧ Accounts done es

/-- A conversion that has done some stages and has ended with the failure of the next one. -/
structure Stopped (a : Action (World (ω × List Event)) (Except Outcome Text))
    (w : World (ω × List Event)) (done : List Stage) (s : Stage) (f : Failure)
    (v : World (ω × List Event)) : Prop where
  delivered : a w = (.ok (.error { error := some f }), v)
  told : ∃ es, v.outside.2 = w.outside.2 ++ (es ++ ended s (some f)) ∧ Accounts done es

/-- A stage that succeeds is done, and leaves its message of success behind. -/
theorem Reached.ok {k : Text → Action (World (ω × List Event)) (Except Outcome Text)}
    {x : Text} (hr : Reached a w done t u) (hg : Gives s (.ok x : Except Failure Text) (k t) u) :
    ∃ v, Reached (a >>= fun r => handOn r k) w (done ++ [s]) x v := by
  obtain ⟨v, es', hv, hdrive, hasides, hes'⟩ := hg
  obtain ⟨es, hes, hdone⟩ := hr.told
  refine ⟨v, (Action.bind_of_ok hr.handed).trans hv, hdrive.trans hr.drive, _, ?_,
    hdone.append ((accounts_of_asides hasides).append (accounts_ended s))⟩
  rw [hes', hes, List.append_assoc]
  rfl

/-- A stage that fails leaves its complaint behind. -/
theorem Reached.error {k : Text → Action (World (ω × List Event)) (Except Outcome Text)}
    (hr : Reached a w done t u) (hg : Gives s (.error f : Except Failure Text) (k t) u) :
    ∃ v, Stopped (a >>= fun r => handOn r k) w done s f v := by
  obtain ⟨v, es', hv, -, hasides, hes'⟩ := hg
  obtain ⟨es, hes, hdone⟩ := hr.told
  refine ⟨v, (Action.bind_of_ok hr.handed).trans hv, es ++ es', ?_, ?_⟩
  · rw [hes', hes]
    simp only [List.append_assoc]
    rfl
  · have hes := hdone.append (accounts_of_asides hasides)
    rwa [List.append_nil] at hes

/-- No stage behind a failure is run. -/
theorem Stopped.handOn (hs : Stopped a w done s f v)
    (k : Text → Action (World (ω × List Event)) (Except Outcome Text)) :
    Stopped (a >>= fun r => handOn r k) w done s f v :=
  ⟨Action.bind_of_ok hs.delivered, hs.told⟩

/-- What the log says of a run that has ended: the stages that were done, and the failure that ended
it, if there is one. -/
def Concludes (h : Host ω) (j : Job) (w : World ω) (error : Option Failure) (done : List Stage)
    (es : List Event) : Prop :=
  (∀ s, s ∈ done ↔ j.Ends h w s none) ∧
    match error with
    | none => done <+: Stage.all ∧ Accounts done es
    | some f => ∃ s behind es', Stage.all = done ++ s :: behind ∧ j.Ends h w s (some f) ∧
        es = es' ++ ended s (some f) ∧ Accounts done es'

/-- A run with its conclusion. -/
def Logs (h : Host ω) (j : Job) (w : World (ω × List Event)) : Prop :=
  ∃ outcome v es done, j.run h.observed w = (.ok outcome, v) ∧ v.outside.2 = w.outside.2 ++ es ∧
    Concludes h.observed j w outcome.error done es

theorem Stopped.logs {behind : List Stage} (hs : Stopped (rendering h.observed j) w done s f v)
    (hall : Stage.all = done ++ s :: behind) (hends : j.Ends h.observed w s (some f))
    (hdone : ∀ s', s' ∈ done ↔ j.Ends h.observed w s' none) : Logs h j w := by
  obtain ⟨es, hes, haccounts⟩ := hs.told
  refine ⟨{ error := some f }, v, _, done, ?_, hes, hdone, s, behind, es, hall, hends, rfl,
    haccounts⟩
  refine Action.inside_of_ok ?_ _
  rw [stages_eq, Action.bind_of_ok hs.delivered]
  rfl

/-- Writing a page is a stage as well. -/
theorem exists_store_eq (hq : h.NeverRefuses) (place : Place) (page : Text)
    (u : World (ω × List Event)) :
    ∃ outcome v, store h.observed (some place) page u = (.ok outcome, v) ∧
      outcome.error = fault? (u.drive.write place (Utf8.encode page)) ∧
      v.outside.2 = u.outside.2 ++ ([.said .debug "Writing to file...".toList] ++
        ended .writing (fault? (u.drive.write place (Utf8.encode page)))) := by
  have hnote : note h.observed "Writing to file..." u =
      (.ok (), said h .debug "Writing to file...".toList u) := outside_log hq _ _ u
  rw [store, Action.bind_of_ok hnote]
  cases hwrite : u.drive.write place (Utf8.encode page) with
  | error f =>
    have hstep : write? page place (said h .debug "Writing to file...".toList u) =
        (.ok (.error f), said h .debug "Writing to file...".toList u) := by
      simp only [write?, said, hwrite]
    rw [Action.bind_of_ok hstep]
    exact ⟨_, _, Action.bind_of_ok (outside_log hq _ _ _), rfl, List.append_assoc ..⟩
  | ok d =>
    have hstep : write? page place (said h .debug "Writing to file...".toList u) =
        (.ok (.ok ()), ⟨d, (said h .debug "Writing to file...".toList u).outside⟩) := by
      simp only [write?, said, hwrite]
    rw [Action.bind_of_ok hstep]
    exact ⟨_, _, Action.bind_of_ok (outside_log hq _ _ _), rfl, List.append_assoc ..⟩

/-- The end of a run whose page has been rendered. -/
theorem Reached.logs (hq : h.NeverRefuses)
    (hr : Reached (rendering h.observed j) w [.reading, .converting, .rendering] t u)
    (hdone : ∀ s' ∈ [Stage.reading, .converting, .rendering], j.Ends h.observed w s' none) :
    Logs h j w := by
  obtain ⟨es, hes, haccounts⟩ := hr.told
  have hrun : ∀ {outcome : Outcome} {v : World (ω × List Event)},
      store h.observed j.destination t u = (.ok outcome, v) →
        j.run h.observed w = (.ok outcome, v) := fun hstore => by
    refine Action.inside_of_ok ?_ _
    rw [stages_eq, Action.bind_of_ok hr.handed]
    exact hstore
  have hlast : ∀ e, Ends h.observed j w .writing e ↔ ∃ place, j.destination = some place ∧
      fault? (u.drive.write place (Utf8.encode t)) = e := fun e => by
    simp [Ends, hr.handed]
  cases hplace : j.destination with
  | none =>
    rw [hplace] at hrun
    refine ⟨{ html := some t }, u, es, _, hrun rfl, hes, fun s' => ?_, ⟨[.writing], rfl⟩, haccounts⟩
    cases s' with
    | writing => simp [hlast, hplace]
    | _ => simpa using hdone _ (by simp)
  | some place =>
    rw [hplace] at hrun
    obtain ⟨outcome, v, hstore, herror, hv⟩ := exists_store_eq hq place t u
    have hasides : Accounts [.reading, .converting, .rendering]
        (es ++ [.said .debug "Writing to file...".toList]) := by
      have hnote : Accounts [] [.said .debug "Writing to file...".toList] :=
        accounts_of_asides (by simpa using Event.IsAside.said .writing)
      exact haccounts.append hnote
    rw [hes, List.append_assoc, ← List.append_assoc es] at hv
    cases hwrite : fault? (u.drive.write place (Utf8.encode t)) with
    | some f =>
      rw [hwrite] at herror hv
      have hends : Ends h.observed j w .writing (some f) := (hlast _).2 ⟨place, hplace, hwrite⟩
      refine ⟨outcome, v, _, [.reading, .converting, .rendering], hrun hstore, hv, fun s' => ?_,
        ?_⟩
      · cases s' with
        | writing => simp [hlast, hplace, hwrite]
        | _ => simpa using hdone _ (by simp)
      · rw [herror]
        exact ⟨.writing, [], _, rfl, hends, rfl, hasides⟩
    | none =>
      rw [hwrite] at herror hv
      refine ⟨outcome, v, _, Stage.all, hrun hstore, hv, fun s' => ?_, ?_⟩
      · cases s' with
        | writing => simp [Stage.all, hlast, hplace, hwrite]
        | _ => simpa [Stage.all] using hdone _ (by simp)
      · rw [herror]
        exact ⟨List.prefix_refl _, hasides.append (accounts_ended .writing)⟩

/-- A run whose text has been converted. -/
theorem logs_of_converted (hq : h.NeverRefuses) {html : Text}
    (hr : Reached (converting h.observed j) w [.reading, .converting] html u)
    (hdone : ∀ s' ∈ [Stage.reading, .converting], j.Ends h.observed w s' none) : Logs h j w := by
  have hrenders := page_gives hq j.options html u
  cases hpage : (framed h.observed j.options html u.outside).1 with
  | error f =>
    rw [hpage] at hrenders
    obtain ⟨v, hrendering⟩ : ∃ v, Stopped (rendering h.observed j) w [.reading, .converting]
        .rendering f v := hr.error hrenders
    refine hrendering.logs rfl ⟨html, u, hr.handed, congrArg fault? hpage⟩ fun s' => ?_
    cases s' with
    | rendering => simp [Ends, fault?, hr.handed, hpage]
    | writing => simp [Ends, hrendering.delivered]
    | _ => simpa using hdone _ (by simp)
  | ok page =>
    rw [hpage] at hrenders
    obtain ⟨v, hrendering⟩ : ∃ v, Reached (rendering h.observed j) w
        [.reading, .converting, .rendering] page v := hr.ok hrenders
    refine hrendering.logs hq fun s' hs' => ?_
    cases s' with
    | rendering => exact ⟨html, u, hr.handed, congrArg fault? hpage⟩
    | writing => simp at hs'
    | _ => exact hdone _ (by simp)

/-- A run whose source has been read. -/
theorem logs_of_read (hq : h.NeverRefuses) (hr : Reached (reading h.observed j) w [.reading] t u)
    (hread : j.Ends h.observed w .reading none) : Logs h j w := by
  have hconverts := fragment_gives hq t u
  cases hhtml : htmlOf h.observed t u.outside with
  | error f =>
    rw [hhtml] at hconverts
    obtain ⟨v, hconverting⟩ : ∃ v, Stopped (converting h.observed j) w [.reading] .converting f v :=
      hr.error hconverts
    have hrendering : Stopped (rendering h.observed j) w [.reading] .converting f v :=
      hconverting.handOn _
    refine hrendering.logs rfl ⟨t, u, hr.handed, congrArg fault? hhtml⟩ fun s' => ?_
    cases s' with
    | reading => simpa using hread
    | converting => simp [Ends, fault?, hr.handed, hhtml]
    | rendering => simp [Ends, hconverting.delivered]
    | writing => simp [Ends, hrendering.delivered]
  | ok html =>
    rw [hhtml] at hconverts
    obtain ⟨v, hconverting⟩ : ∃ v, Reached (converting h.observed j) w [.reading, .converting]
        html v := hr.ok hconverts
    refine logs_of_converted hq hconverting fun s' hs' => ?_
    cases s' with
    | reading => exact hread
    | converting => exact ⟨t, u, hr.handed, congrArg fault? hhtml⟩
    | _ => simp at hs'

end Runs

/-- **The log of a run says which stages were done, and which one failed.** -/
theorem run_logs (hq : h.NeverRefuses) (j : Job) (w : World (ω × List Event)) : Logs h j w := by
  have hstart : Reached (pure (.ok [])) w [] [] w :=
    ⟨rfl, rfl, [], (List.append_nil _).symm, [], rfl, rfl⟩
  have hreads := reading_gives hq j w
  cases hsource : w.drive.readText j.source with
  | error f =>
    rw [hsource] at hreads
    obtain ⟨v, hreading⟩ : ∃ v, Stopped (reading h.observed j) w [] .reading f v :=
      hstart.error (k := fun _ => reading h.observed j) hreads
    have hconverting : Stopped (converting h.observed j) w [] .reading f v := hreading.handOn _
    have hrendering : Stopped (rendering h.observed j) w [] .reading f v := hconverting.handOn _
    refine hrendering.logs rfl (congrArg fault? hsource) fun s' => ?_
    cases s' with
    | reading => simp [Ends, fault?, hsource]
    | converting => simp [Ends, hreading.delivered]
    | rendering => simp [Ends, hconverting.delivered]
    | writing => simp [Ends, hrendering.delivered]
  | ok t =>
    rw [hsource] at hreads
    obtain ⟨u, hreading⟩ : ∃ u, Reached (reading h.observed j) w [.reading] t u :=
      hstart.ok (k := fun _ => reading h.observed j) hreads
    exact logs_of_read hq hreading (congrArg fault? hsource)

end Job

namespace Conversion

/-! ### Whole calls -/

/-- The callback is told the outcome, if there is one, and the logger nothing. -/
theorem call_of_begin {current : Place} {file : Value} {options callback : Argument ω}
    {o : Except Options.Refusal Options} {k : Option (Callback ω)}
    (hk : arguments options callback = .ok (o, k)) {w v : World (ω × List Event)}
    {outcome : Outcome} (hbegin : begin h.observed current file o w = (.ok outcome, v)) :
    ∃ r u, call h.observed current file options.observed callback.observed w = (r, u) ∧
      records u.outside.2 = records v.outside.2 ∧ (∀ x, r = .ok x → x = outcome) ∧
      ((∀ c, k = some c → ∀ error html w, (c error html w).1 = .ok ()) → r = .ok outcome) := by
  rw [call, arguments_observed, hk]
  simp only [Except.map, Action.bind_of_ok hbegin]
  cases k with
  | none => exact ⟨_, v, rfl, rfl, fun x hx => (Except.ok.inj hx).symm, fun _ => rfl⟩
  | some c =>
    refine ⟨_, _, Job.outside_bind_pure _ outcome v, ?_, fun x hx => ?_, fun hc => ?_⟩
    · show records (v.outside.2 ++ [.handed outcome.error outcome.html]) = _
      rw [records_append]
      exact List.append_nil _
    · cases hr : (c.observed outcome.error outcome.html v.outside).1 with
      | error f =>
        rw [hr] at hx
        cases hx
      | ok _ =>
        rw [hr] at hx
        exact (Except.ok.inj hx).symm
    · have hdone : (c.observed outcome.error outcome.html v.outside).1 = .ok () := hc c rfl _ _ _
      rw [hdone]
      rfl

/-- A callback that fails. -/
def failing : Callback ℕ := fun _ _ n => (.error (.foreign .runtime "callback failed".toList), n)

/-- A host whose logger keeps what it receives, and whose renderer sends it a warning. -/
def warner : Host (List (Severity × Text)) where
  render _ := fun rs => (.ok (some "<p>x</p>".toList), rs ++ [(.warning, "no network".toList)])
  log severity t := fun rs => (.ok (), rs ++ [(severity, t)])

/-- The conversion of a document of one pair with that host. -/
def warnedRun : Except Failure Outcome × World (List (Severity × Text)) :=
  call warner ["box".toList] (.text "a.md".toList) (.value (.options { fragment := true }))
    (.value .none) ⟨pairDrive, []⟩

end Conversion

end MathPage
