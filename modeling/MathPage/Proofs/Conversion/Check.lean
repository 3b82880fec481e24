import MathPage.Conversion.Job
import MathPage.Proofs.Equation.Host

/-!
# What the checks of a conversion give

* `Job.check` – the job that a conversion is made of, or the fault of its arguments;
* `Job.prepare_computes` – beside log messages, the checks do nothing but find it;
* `Job.check_eq_ok_iff`, `Job.check_eq_ok` – the places and the options of a job;
* `Job.prepare_options_congr`, `Conversion.call_congr` – what the checks and a call depend on.
-/

namespace MathPage

variable {ω : Type}

namespace Job

/-- The place to write to, if the options name one. -/
def checkDestination (current : Place) (o : Options) : Except Failure (Option Place) :=
  match o.destination? with
  | none => .ok none
  | some d => do
    let place ← locate current (destinationValue d) (destinationPath d)
    return some place

/-- The job that the arguments of a conversion describe, or what is wrong with them. -/
def check (current : Place) (file : Value) (options : Except Options.Refusal Options) :
    Except Failure Job :=
  match filePath? file with
  | none => .error (.usage (.notFile file))
  | some path =>
    match options with
    | .error r => .error (.usage (.options r))
    | .ok o => do
      let source ← locate current file path
      let destination ← checkDestination current o
      return ⟨source, destination, o⟩

theorem locateDestination_computes (h : Host ω) (current : Place) (o : Options) :
    h.Computes (locateDestination h current o) (checkDestination current o) := by
  unfold locateDestination checkDestination
  cases o.destination? with
  | none => exact Host.computes_pure none
  | some d =>
    exact (Host.computes_ofExcept _).bind fun place =>
      .after_log fun _ => Host.computes_pure (some place)

/-- **The checks find the job, or the first fault.** -/
theorem prepare_computes (h : Host ω) (current : Place) (file : Value)
    (options : Except Options.Refusal Options) :
    h.Computes (prepare h current file options) (check current file options) := by
  unfold prepare check
  cases filePath? file with
  | none => exact Host.computes_fail _
  | some path =>
    cases options with
    | error r => exact Host.computes_fail _
    | ok o =>
      refine .after_log fun _ => (Host.computes_ofExcept _).bind fun source => ?_
      exact .after_log fun _ => (locateDestination_computes h current o).bind fun _ =>
        Host.computes_pure _

/-- The checks ask where the options lead the page to, and nothing else of them. -/
theorem prepare_options_congr {h : Host ω} {current : Place} {o o' : Options}
    (hdest : locateDestination h current o' = locateDestination h current o) (file : Value) :
    prepare h current file (.ok o') =
      prepare h current file (.ok o) >>= fun j => pure { j with options := o' } := by
  unfold prepare
  cases filePath? file with
  | none => rfl
  | some path =>
    simp only [hdest, Action.bind_assoc]
    rfl

/-- A place is found for every path without a null character. -/
theorem locate_eq_ok {current place : Place} {shown : Value} {p : Path}
    (hl : locate current shown p = .ok place) : isProper p = true ∧ place = p.resolve current := by
  unfold locate at hl
  split at hl
  · exact ⟨‹_›, (Except.ok.inj hl).symm⟩
  · cases hl

theorem checkDestination_eq_ok {current : Place} {o : Options} {place : Option Place}
    (hd : checkDestination current o = .ok place) :
    place = o.destination?.map fun d => (destinationPath d).resolve current := by
  unfold checkDestination at hd
  cases hdest : o.destination? with
  | none =>
    rw [hdest] at hd
    exact (Except.ok.inj hd).symm
  | some d =>
    rw [hdest] at hd
    cases hl : locate current (destinationValue d) (destinationPath d) with
    | error f =>
      simp only [hl] at hd
      cases hd
    | ok place' =>
      simp only [hl] at hd
      rw [← (Except.ok.inj hd), (locate_eq_ok hl).2]
      rfl

/-- A destination without a null character passes the check. -/
theorem checkDestination_of_proper {current : Place} {o : Options} {d : Text ⊕ Path}
    (hd : o.destination? = some d) (hproper : isProper (destinationPath d) = true) :
    checkDestination current o = .ok (some ((destinationPath d).resolve current)) := by
  rw [checkDestination, hd]
  simp only [locate, hproper, if_true]
  rfl

/-- The arguments that pass the checks, and their job. -/
theorem check_eq_ok_iff {current : Place} {file : Value} {options : Except Options.Refusal Options}
    {j : Job} : check current file options = .ok j ↔ options = .ok j.options ∧
      (∃ path, filePath? file = some path ∧ locate current file path = .ok j.source) ∧
      checkDestination current j.options = .ok j.destination := by
  constructor
  · intro hj
    unfold check at hj
    cases hfile : filePath? file with
    | none =>
      rw [hfile] at hj
      cases hj
    | some path =>
      cases options with
      | error r =>
        rw [hfile] at hj
        cases hj
      | ok o =>
        simp only [hfile] at hj
        cases hsource : locate current file path with
        | error f =>
          rw [hsource] at hj
          cases hj
        | ok source =>
          cases hdest : checkDestination current o with
          | error f =>
            rw [hsource, hdest] at hj
            cases hj
          | ok destination =>
            rw [hsource, hdest] at hj
            obtain rfl := Except.ok.inj hj
            exact ⟨rfl, ⟨path, rfl, hsource⟩, hdest⟩
  · rintro ⟨rfl, ⟨path, hfile, hsource⟩, hdest⟩
    simp only [check, hfile, hsource, hdest]
    rfl

/-- Of the options, only the destination is checked. -/
theorem check_congr {current : Place} {file : Value} {o o' : Options}
    (hd : o'.destination? = o.destination?) :
    check current file (.ok o') = (check current file (.ok o)).map ({ · with options := o' }) := by
  have hdest : checkDestination current o' = checkDestination current o := by
    rw [checkDestination, checkDestination, hd]
  unfold check
  cases filePath? file with
  | none => rfl
  | some path =>
    simp only [hdest]
    cases locate current file path with
    | error f => rfl
    | ok source => cases checkDestination current o <;> rfl

/-- The job of arguments that pass the checks. -/
theorem check_eq_ok {current : Place} {file : Value} {options : Except Options.Refusal Options}
    {j : Job} (hj : check current file options = .ok j) :
    options = .ok j.options ∧
      (∃ path, filePath? file = some path ∧ j.source = path.resolve current) ∧
      j.destination = j.options.destination?.map fun d => (destinationPath d).resolve current := by
  obtain ⟨ho, ⟨path, hfile, hsource⟩, hdest⟩ := check_eq_ok_iff.1 hj
  exact ⟨ho, ⟨path, hfile, (locate_eq_ok hsource).2⟩, checkDestination_eq_ok hdest⟩

end Job

namespace Conversion

/-- Calls whose conversions agree do the same, as long as neither is given a function for the
options. -/
theorem call_congr {h : Host ω} {current : Place} {file file' : Value} {v v' : Value}
    (hbegin : begin h current file (Options.read v) = begin h current file' (Options.read v'))
    (callback : Argument ω) :
    call h current file (.value v) callback = call h current file' (.value v') callback := by
  unfold call
  cases callback with
  | function k => simp only [arguments, Argument.options, hbegin]
  | value c => cases c <;> simp only [arguments, Argument.options, hbegin]

end Conversion

end MathPage
