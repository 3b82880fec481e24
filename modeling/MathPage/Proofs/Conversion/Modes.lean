import MathPage.Proofs.Conversion.Delivery

/-!
# The ways to deliver a page agree

With a renderer whose answer depends on the equation only and a logger that takes every message, a
conversion depends on the files alone (`Conversion.under_eq`): its job makes a page (`Job.made`),
which is delivered or written (`Job.settle`). Options that differ in the destination or in the choice
of a fragment share the first of these two steps up to the frame of the page, so that their
conversions agree (`Conversion.under_agree`).
-/

namespace MathPage

variable {ω : Type} {h : Host ω} {f : Equation → Except Failure (Option Text)}

/-- The host whose renderer answers by a function and whose logger forgets all messages. -/
def Host.silent (f : Equation → Except Failure (Option Text)) : Host Unit where
  render e := Action.ofExcept (f e)
  log _ _ := Action.result ()

theorem Host.silent_neverRefuses (f : Equation → Except Failure (Option Text)) :
    (Host.silent f).NeverRefuses := fun _ _ _ => rfl

/-- A quiet host with a pure renderer is a silent host with something behind it. -/
theorem Host.IsPure.exists_over_silent (hp : h.IsPure) (hq : h.NeverRefuses) :
    ∃ f, Host.Over (fun _ => ()) h (Host.silent f) := by
  obtain ⟨f, hf⟩ := hp
  refine ⟨f, fun e w => ?_, fun severity t w => ?_⟩
  · rw [hf]
    rfl
  · rw [hq]
    rfl

/-- An outcome with its page changed, if it has one. -/
def Outcome.mapHtml (g : Text → Text) (o : Outcome) : Outcome := { o with html := o.html.map g }

/-- Converted text on its page, or the text itself if a fragment is wanted. -/
def Options.frame (o : Options) (html : Text) : Text :=
  if o.fragment then html else Page.text (View.ofOptions o html)

namespace Job

/-- The HTML of the source, or the failure of reading or converting it. -/
def converted (f : Equation → Except Failure (Option Text)) (source : Place) (d : Drive) :
    Except Failure Text := do
  let t ← d.readText source
  (Markdown.render (Host.silent f) t ()).1

/-- The page of a job, or the failure of the first stage that fails. -/
def made (f : Equation → Except Failure (Option Text)) (j : Job) (d : Drive) :
    Except Failure Text := (converted f j.source d).map j.options.frame

/-- The outcome of a job with the page that it makes, and the files behind it. -/
def settle (j : Job) (d : Drive) : Except Failure Text → Outcome × Drive
  | .error f => ({ error := some f }, d)
  | .ok page =>
    match j.destination with
    | none => ({ html := some page }, d)
    | some place =>
      match d.write place (Utf8.encode page) with
      | .error f => ({ error := some f }, d)
      | .ok d' => ({ out := some (Path.ofPlace place) }, d')

/-! ### Stages on a silent host -/

/-- The page that is made of what was read. -/
def madeOf (f : Equation → Except Failure (Option Text)) (j : Job) (r : Except Failure Text) :
    Except Failure Text :=
  (r.bind fun t => (Markdown.render (Host.silent f) t ()).1).map j.options.frame

theorem loaded_silent (r : Except Failure Text) (w : World Unit) :
    loaded (Host.silent f) r w = (.ok (handedOn r), w) := by
  cases r <;> rfl

theorem fragment_silent (t : Text) (w : World Unit) :
    fragment (Host.silent f) t w =
      (.ok (handedOn (Markdown.render (Host.silent f) t ()).1), w) := by
  have hnote : note (Host.silent f) "Converting file content to HTML..." w = (.ok (), w) := rfl
  rcases hrender : Markdown.render (Host.silent f) t () with ⟨r, u⟩
  have hstep : (outside (Markdown.render (Host.silent f) t)).attempt w = (.ok r, w) := by
    simp only [Action.attempt, outside_of_eq hrender]
  rw [fragment, Action.bind_of_ok hnote, Action.bind_of_ok hstep]
  cases r <;> rfl

theorem page_silent (o : Options) (html : Text) (w : World Unit) :
    page (Host.silent f) o html w = (.ok (.ok (o.frame html)), w) := by
  unfold page Options.frame
  split <;> rfl

theorem store_silent (j : Job) (page : Text) (w : World Unit) :
    store (Host.silent f) j.destination page w =
      (.ok (j.settle w.drive (.ok page)).1, ⟨(j.settle w.drive (.ok page)).2, ()⟩) := by
  unfold store settle
  cases j.destination with
  | none => rfl
  | some place =>
    have hnote : note (Host.silent f) "Writing to file..." w = (.ok (), w) := rfl
    simp only [Action.bind_of_ok hnote]
    cases hwrite : w.drive.write place (Utf8.encode page) with
    | error e =>
      have hstep : write? page place w = (.ok (.error e), w) := by simp only [write?, hwrite]
      rw [Action.bind_of_ok hstep]
      rfl
    | ok d =>
      have hstep : write? page place w = (.ok (.ok ()), ⟨d, ()⟩) := by simp only [write?, hwrite]
      rw [Action.bind_of_ok hstep]
      rfl

/-- **What was read is settled**, whatever has become of the files since. -/
theorem finish_silent (j : Job) (r : Except Failure Text) (w : World Unit) :
    j.finish (Host.silent f) r w =
      (.ok (j.settle w.drive (j.madeOf f r)).1, ⟨(j.settle w.drive (j.madeOf f r)).2, ()⟩) := by
  rw [finish, Action.bind_of_ok (loaded_silent r w)]
  cases r with
  | error e => rfl
  | ok t =>
    have hmade : j.madeOf f (.ok t) =
        (Markdown.render (Host.silent f) t ()).1.map j.options.frame := rfl
    show (fragment (Host.silent f) t >>= _) w = _
    rw [Action.bind_of_ok (fragment_silent t w), hmade]
    cases (Markdown.render (Host.silent f) t ()).1 with
    | error e => rfl
    | ok html =>
      show (page (Host.silent f) j.options html >>= _) w = _
      rw [Action.bind_of_ok (page_silent j.options html w)]
      exact store_silent j (j.options.frame html) w

/-- **A job on a silent host makes its page and settles.** -/
theorem run_silent (j : Job) (w : World Unit) :
    j.run (Host.silent f) w =
      (.ok (j.settle w.drive (j.made f w.drive)).1,
        ⟨(j.settle w.drive (j.made f w.drive)).2, ()⟩) := by
  have hread : j.read (Host.silent f) w = (.ok (w.drive.readText j.source), w) := rfl
  refine Action.inside_of_ok ?_ _
  rw [stages, Action.bind_of_ok hread]
  exact finish_silent j (w.drive.readText j.source) w

/-- Without a destination only a stage in front of it can fail. -/
theorem eq_error_of_settle {j : Job} {d : Drive} {r : Except Failure Text}
    (hdest : j.destination = none) {e : Failure} (he : (j.settle d r).1.error = some e) :
    r = .error e := by
  cases r with
  | error e' => exact congrArg Except.error (Option.some.inj he)
  | ok page =>
    simp only [settle, hdest] at he
    cases he

/-- With a destination and no failure there is a page, and it stands there. -/
theorem exists_page_of_settle {j : Job} {d : Drive} {r : Except Failure Text} {place : Place}
    (hdest : j.destination = some place) (hok : (j.settle d r).1.error = none) :
    ∃ page, r = .ok page ∧ (j.settle d r).2.get? place = some (.file (Utf8.encode page)) := by
  cases r with
  | error e => cases hok
  | ok page =>
    cases hwrite : d.write place (Utf8.encode page) with
    | error e =>
      simp only [settle, hdest, hwrite] at hok
      cases hok
    | ok d' =>
      refine ⟨page, rfl, ?_⟩
      simp only [settle, hdest, hwrite]
      exact (Drive.write_eq_ok hwrite).1

/-- What becomes of the page does not depend on it. -/
theorem settle_map (j : Job) (d : Drive) (r : Except Failure Text) (g : Text → Text) :
    (j.settle d (r.map g)).1 = (j.settle d r).1.mapHtml g := by
  cases r with
  | error e => rfl
  | ok page =>
    simp only [Except.map, settle]
    cases j.destination with
    | none => rfl
    | some place =>
      -- writing fails for both pages or for neither
      cases hwrite : d.write place (Utf8.encode page) with
      | error e => simp only [Drive.write_eq_error_congr hwrite, Outcome.mapHtml, Option.map_none]
      | ok d' =>
        cases hwrite' : d.write place (Utf8.encode (g page)) with
        | error e =>
          rw [Drive.write_eq_error_congr hwrite' (Utf8.encode page)] at hwrite
          cases hwrite
        | ok d'' => simp only [hwrite, hwrite', Outcome.mapHtml, Option.map_none]

end Job

namespace Conversion

/-- A conversion under given options, without a callback. -/
def under (h : Host ω) (current : Place) (file : Value) (o : Options) : Action (World ω) Outcome :=
  call h current file (.value (.options o)) (.value .none)

/-- What a conversion under given options gives and the files behind it, told without its host. -/
def result (f : Equation → Except Failure (Option Text)) (current : Place) (file : Value)
    (o : Options) (d : Drive) : Except Failure Outcome × Drive :=
  match Job.check current file (.ok o) with
  | .error e => (.error e, d)
  | .ok j => (.ok (j.settle d (j.made f d)).1, (j.settle d (j.made f d)).2)

theorem under_eq_begin (h : Host ω) (current : Place) (file : Value) (o : Options) :
    under h current file o = begin h current file (.ok o) := by
  funext w
  show (begin h current file (.ok o) >>= fun outcome => pure outcome) w = _
  rcases hbegin : begin h current file (.ok o) w with ⟨f | outcome, v⟩
  · exact Action.bind_of_error hbegin
  · exact Action.bind_of_ok hbegin

theorem begin_silent (current : Place) (file : Value) (o : Options) (w : World Unit) :
    begin (Host.silent f) current file (.ok o) w =
      ((result f current file o w.drive).1, ⟨(result f current file o w.drive).2, ()⟩) := by
  obtain ⟨u, hprepare, -⟩ := (Job.prepare_computes (Host.silent f) current file (.ok o)).exists_eq
    (Host.silent_neverRefuses f) w.outside
  cases hcheck : Job.check current file (.ok o) with
  | error e =>
    rw [hcheck] at hprepare
    simp only [result, hcheck]
    exact Action.bind_of_error (Job.outside_of_eq hprepare)
  | ok j =>
    rw [hcheck] at hprepare
    simp only [result, hcheck]
    rw [begin_of_ok hprepare, Job.run_silent]

/-- **A conversion depends on the files alone**, if the renderer is pure and the logger takes every
message. -/
theorem under_eq (ho : Host.Over (fun _ => ()) h (Host.silent f)) (current : Place) (file : Value)
    (o : Options) (w : World ω) :
    (under h current file o w).1 = (result f current file o w.drive).1 ∧
      (under h current file o w).2.drive = (result f current file o w.drive).2 := by
  have hover := begin_over ho current file (.ok o) w
  rw [begin_silent, ← under_eq_begin] at hover
  obtain ⟨hresult, hworld⟩ := Prod.mk.inj hover
  exact ⟨hresult.symm, (congrArg World.drive hworld).symm⟩

/-- The conversion passes its checks, and the stage is the first to fail. -/
def FailsIn (h : Host ω) (current : Place) (file : Value) (o : Options) (w : World ω)
    (stage : Stage) (e : Failure) : Prop :=
  ∃ j u v, Job.prepare h current file (.ok o) w.outside = (.ok j, u) ∧
    j.FailsAt h ⟨w.drive, u⟩ stage e v

/-- Reading and converting look at no options. -/
theorem FailsIn.of_destination_eq {current : Place} {file : Value} {o o' : Options} {w : World ω}
    {stage : Stage} {e : Failure} (hs : stage = .reading ∨ stage = .converting)
    (hd : o'.destination? = o.destination?) (hf : FailsIn h current file o w stage e) :
    FailsIn h current file o' w stage e := by
  obtain ⟨j, u, v, hj, hfails⟩ := hf
  have hdest : Job.locateDestination h current o' = Job.locateDestination h current o := by
    rw [Job.locateDestination, Job.locateDestination, hd]
  refine ⟨{ j with options := o' }, u, v, ?_, ?_⟩
  · rw [Job.prepare_options_congr hdest, Action.bind_of_ok hj]
    rfl
  · rcases hs with rfl | rfl <;> exact hfails

/-! ### Options that differ in the way of delivery -/

section Modes

variable {current : Place} {file : Value} {o : Options} {d : Drive}

theorem result_of_check {j : Job} (hj : Job.check current file (.ok o) = .ok j) :
    result f current file o d =
      (.ok (j.settle d (j.made f d)).1, (j.settle d (j.made f d)).2) := by
  simp only [result, hj]

theorem exists_check_of_result {outcome : Outcome}
    (hr : (result f current file o d).1 = .ok outcome) :
    ∃ j, Job.check current file (.ok o) = .ok j ∧ j.options = o ∧
      (j.settle d (j.made f d)).1 = outcome := by
  cases hj : Job.check current file (.ok o) with
  | error e =>
    simp only [result, hj] at hr
    cases hr
  | ok j =>
    rw [result_of_check hj] at hr
    exact ⟨j, rfl, (Except.ok.inj (Job.check_eq_ok_iff.1 hj).1).symm, Except.ok.inj hr⟩

/-- A page that is written under some options is the one that is delivered without a destination. -/
theorem result_without_out {place : Text ⊕ Path} (hplace : o.destination? = some place)
    {outcome : Outcome} (hr : (result f current file o d).1 = .ok outcome)
    (hok : outcome.error = none) :
    ∃ html, (result f current file { o with out := none } d).1 = .ok { html := some html } ∧
      (result f current file o d).2.get? ((Job.destinationPath place).resolve current) =
        some (.file (Utf8.encode html)) := by
  obtain ⟨j, hj, rfl, rfl⟩ := exists_check_of_result hr
  obtain ⟨-, hsource, -⟩ := Job.check_eq_ok_iff.1 hj
  have hdest : j.destination = some ((Job.destinationPath place).resolve current) := by
    rw [(Job.check_eq_ok hj).2.2, hplace, Option.map_some]
  have hj' : Job.check current file (.ok { j.options with out := none }) =
      .ok ⟨j.source, none, { j.options with out := none }⟩ :=
    Job.check_eq_ok_iff.2 ⟨rfl, hsource, rfl⟩
  obtain ⟨page, hmade, hget⟩ := Job.exists_page_of_settle hdest hok
  rw [result_of_check hj, result_of_check hj']
  refine ⟨page, ?_, hget⟩
  have hmade' : Job.made f ⟨j.source, none, { j.options with out := none }⟩ d = .ok page := hmade
  rw [hmade']
  rfl

/-- A failure without a destination is a failure with a destination, and nothing is written. -/
theorem result_with_out {place : Text ⊕ Path} (hplace : o.destination? = some place)
    (hproper : Job.isProper (Job.destinationPath place) = true) {outcome : Outcome}
    (hr : (result f current file { o with out := none } d).1 = .ok outcome) {e : Failure}
    (he : outcome.error = some e) :
    result f current file o d = (.ok { error := some e }, d) := by
  obtain ⟨j, hj, hoptions, rfl⟩ := exists_check_of_result hr
  obtain ⟨-, hsource, hdest⟩ := Job.check_eq_ok_iff.1 hj
  have hj' : Job.check current file (.ok o) =
      .ok ⟨j.source, some ((Job.destinationPath place).resolve current), o⟩ :=
    Job.check_eq_ok_iff.2 ⟨rfl, hsource, Job.checkDestination_of_proper hplace hproper⟩
  rw [hoptions] at hdest
  have hmade : j.made f d = .error e := Job.eq_error_of_settle (Except.ok.inj hdest).symm he
  have hmade' : Job.made f ⟨j.source, some ((Job.destinationPath place).resolve current), o⟩ d =
      .error e := by
    rw [← hmade, Job.made, Job.made, hoptions]
    rfl
  rw [result_of_check hj', hmade']
  rfl

/-- The page of a conversion is that of its fragment. -/
theorem result_fragment (f : Equation → Except Failure (Option Text)) (current : Place)
    (file : Value) (o : Options) (d : Drive) :
    (result f current file { o with fragment := false } d).1 =
      (result f current file { o with fragment := true } d).1.map
        (Outcome.mapHtml fun html => Page.text (View.ofOptions o html)) := by
  have hcheck : ∀ b, Job.check current file (.ok { o with fragment := b }) =
      (Job.check current file (.ok o)).map ({ · with options := { o with fragment := b } }) :=
    fun b => Job.check_congr rfl
  simp only [result, hcheck false, hcheck true]
  cases Job.check current file (.ok o) with
  | error e => rfl
  | ok j =>
    have hpage : Job.made f { j with options := { o with fragment := false } } d =
        (Job.converted f j.source d).map fun html => Page.text (View.ofOptions o html) := rfl
    have hfragment : Job.made f { j with options := { o with fragment := true } } d =
        Job.converted f j.source d := by
      rw [Job.made]
      cases Job.converted f j.source d <;> rfl
    simp only [Except.map, hpage, hfragment]
    exact congrArg Except.ok (j.settle_map d _ _)

end Modes

end Conversion

/-- A page embeds the converted text as it is. -/
theorem Page.exists_text_eq (o : Options) :
    ∃ before behind, ∀ html, Page.text (View.ofOptions o html) = before ++ html ++ behind := by
  let v := View.ofOptions o []
  refine ⟨beforeTitle ++ escape v.title ++ "</title>\n".toList ++ block v.head ++
    "</head>\n<body>\n".toList ++ navigation v ++ block (v.prepend.getD []) ++
    "<article class=\"markdown-body readme\">\n".toList, "\n</article>\n".toList ++
    block (v.append.getD []) ++ "</body>\n</html>".toList, fun html => ?_⟩
  simp only [text, List.append_assoc]
  rfl

namespace Conversion

/-- **The ways of delivery agree.** A page that is written is the page that is delivered without a
destination. A failure without a destination is also the failure with it, with nothing written, if
the path to write to holds no null character; a path that does is refused. A page is the frame around
the fragment, and the conversions to either of them fail alike. -/
theorem under_agree (hq : h.NeverRefuses) (hp : h.IsPure) (current : Place) (file : Value)
    (o : Options) (w : World ω) :
    (∀ place, o.out = some place → place ≠ .inl [] →
      (∀ outcome, (under h current file o w).1 = .ok outcome → outcome.error = none →
        ∃ html, (under h current file { o with out := none } w).1 = .ok { html := some html } ∧
          (under h current file o w).2.drive.get? ((Job.destinationPath place).resolve current) =
            some (.file (Utf8.encode html))) ∧
      (∀ outcome e, (under h current file { o with out := none } w).1 = .ok outcome →
        outcome.error = some e → Job.isProper (Job.destinationPath place) = true →
        (under h current file o w).1 = .ok { error := some e } ∧
          (under h current file o w).2.drive = w.drive)) ∧
    (under h current file { o with fragment := false } w).1 =
      (under h current file { o with fragment := true } w).1.map
        (Outcome.mapHtml fun html => Page.text (View.ofOptions o html)) ∧
    (∃ before behind, ∀ html, Page.text (View.ofOptions o html) = before ++ html ++ behind) ∧
    ∀ stage, stage = .reading ∨ stage = .converting → ∀ e,
      FailsIn h current file { o with fragment := false } w stage e ↔
        FailsIn h current file { o with fragment := true } w stage e := by
  obtain ⟨f, ho⟩ := hp.exists_over_silent hq
  have heq := fun o => under_eq ho current file o w
  refine ⟨fun place hout hne => ?_, ?_, Page.exists_text_eq o,
    fun stage hs e => ⟨.of_destination_eq hs rfl, .of_destination_eq hs rfl⟩⟩
  · have hplace : o.destination? = some place := Options.destination?_eq_some.2 ⟨hout, hne⟩
    refine ⟨fun outcome hr hok => ?_, fun outcome e hr he hproper => ?_⟩
    · rw [(heq _).1] at hr
      rw [(heq _).1, (heq _).2]
      exact result_without_out hplace hr hok
    · rw [(heq _).1] at hr
      rw [(heq _).1, (heq _).2, result_with_out hplace hproper hr he]
      exact ⟨rfl, rfl⟩
  · rw [(heq _).1, (heq _).1]
    exact result_fragment f current file o w.drive

/-- A host that counts its answers, which do not show the count. -/
def steady : Host ℕ where
  render e := fun n => (.ok (some e.raw), n + 1)
  log _ _ := Action.result ()

theorem under_agree_sample :
    steady.NeverRefuses ∧ steady.IsPure ∧
      (∃ outcome, (under steady ["box".toList] (.text "a.md".toList)
        { out := some (.inl "b.html".toList) } ⟨sampleDrive, 0⟩).1 = .ok outcome ∧
          outcome.error = none) ∧
      ∃ html, (under steady ["box".toList] (.text "a.md".toList) {} ⟨sampleDrive, 0⟩).1 =
          .ok { html := some html } ∧
        (under steady ["box".toList] (.text "a.md".toList) { out := some (.inl "b.html".toList) }
          ⟨sampleDrive, 0⟩).2.drive.get? ["box".toList, "b.html".toList] =
            some (.file (Utf8.encode html)) := by
  have hq : steady.NeverRefuses := fun _ _ _ => rfl
  have hp : steady.IsPure := ⟨fun e => .ok (some e.raw), fun _ _ => rfl⟩
  obtain ⟨outcome, hr, hok⟩ : ∃ outcome, (under steady ["box".toList] (.text "a.md".toList)
      { out := some (.inl "b.html".toList) } ⟨sampleDrive, 0⟩).1 = .ok outcome ∧
        outcome.ok = true := exists_of_shown (by decide +kernel)
  have hok : outcome.error = none := Option.isNone_iff_eq_none.1 hok
  have hagree := (under_agree hq hp ["box".toList] (.text "a.md".toList)
    { out := some (.inl "b.html".toList) } ⟨sampleDrive, 0⟩).1 _ rfl (by simp)
  exact ⟨hq, hp, ⟨outcome, hr, hok⟩, hagree.1 outcome hr hok⟩

end Conversion

end MathPage
