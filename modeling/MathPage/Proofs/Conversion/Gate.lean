import MathPage.Proofs.Conversion.Delivery
import MathPage.Proofs.Text.Lines

/-!
# What is refused before anything is done

A call checks its arguments in a fixed order, and the first check that fails is the one that is
reported.

* `Conversion.Fails` – what can be wrong with the arguments at each check;
* `Conversion.FirstFault` – the fault of the first check that fails;
* `Conversion.Event`, `Host.observed` – everything that the renderer, the logger and the callback
  are told, written down beside the outside.

A call is refused exactly for its first fault, before any file is looked at and with nothing but
debug messages behind it (`call_refuses_first_fault`). The faults are stated on the arguments as
they were given: a path has a null character if it is written with one, whatever names it is read
as (`isProper_filePath_iff`).
-/

namespace MathPage

/-! ### Characters of a path -/

namespace Job

theorem isProper_eq_false_iff {p : Path} : isProper p = false ↔ ∃ n ∈ p.names, '\x00' ∈ n := by
  simp [isProper]

/-- A path is written with the characters of its names, and with slashes and a dot. -/
theorem null_mem_toText_iff {p : Path} : '\x00' ∈ p.toText ↔ isProper p = false := by
  rw [isProper_eq_false_iff, ← Text.mem_join_iff (s := ['/']) (by decide), Path.toText]
  cases p.anchor with
  | here =>
    cases hnames : p.names with
    | nil => simp [Text.join]
    | cons n ns => simp
  | root | doubleRoot => simp

/-- The names that are dropped from a path have no null character. -/
theorem null_mem_iff {t : Text} : '\x00' ∈ t ↔ isProper (Path.ofText t) = false := by
  rw [isProper_eq_false_iff, ← Text.exists_mem_splitChar_iff (s := '/') (by decide)]
  simp only [Path.ofText, List.mem_filter]
  refine exists_congr fun n => ⟨fun ⟨hn, hnull⟩ => ⟨⟨hn, ?_⟩, hnull⟩, fun ⟨⟨hn, _⟩, hnull⟩ =>
    ⟨hn, hnull⟩⟩
  have hempty : n ≠ [] := List.ne_nil_of_mem hnull
  have hdot : n ≠ ['.'] := by
    rintro rfl
    exact absurd hnull (by decide)
  simp [Path.isName, hempty, hdot]

end Job

namespace Conversion

variable {ω : Type}

/-! ### Faults of arguments -/

/-- The checks of a call. -/
inductive Check where
  | callback
  | file
  | options
  | source
  | destination
  deriving DecidableEq, Repr

/-- The checks in the order in which they are made. -/
def Check.all : List Check := [.callback, .file, .options, .source, .destination]

/-- The options and the callback: a function in place of the options is moved to the place of the
callback, if that is free. -/
def moved : Argument ω → Argument ω → Argument ω × Argument ω
  | .function k, .value .none => (.value .none, .function k)
  | o, k => (o, k)

/-- The text that a path argument is written as. -/
inductive Spells : Value → Text → Prop where
  | text (t : Text) : Spells (.text t) t
  | path (p : Path) : Spells (.path p) p.toText

/-- A path argument that is written with a null character. -/
def HasNull (v : Value) : Prop := ∃ t, Spells v t ∧ '\x00' ∈ t

/-- What is wrong with the arguments at a check. -/
inductive Fails (file : Value) (options callback : Argument ω) : Check → UsageFault → Prop where
  | callback {v : Value} (hcallback : callback = .value v) (hsome : v ≠ .none) :
    Fails file options callback .callback (.notCallback v)
  | file (hfile : ∀ t, ¬ Spells file t) : Fails file options callback .file (.notFile file)
  | options {r : Options.Refusal} (hoptions : options.options = .error r) :
    Fails file options callback .options (.options r)
  | source (hnull : HasNull file) : Fails file options callback .source (.nullInPath file)
  | destination {o : Options} {d : Text ⊕ Path} (hoptions : options.options = .ok o)
    (hout : o.out = some d) (hsome : d ≠ .inl []) (hnull : HasNull (Job.destinationValue d)) :
    Fails file options callback .destination (.nullInPath (Job.destinationValue d))

/-- The fault of the first check that fails. -/
def FirstFault (file : Value) (options callback : Argument ω) (fault : UsageFault) : Prop :=
  let (o, k) := moved options callback
  ∃ before check behind, Check.all = before ++ check :: behind ∧ Fails file o k check fault ∧
    ∀ earlier ∈ before, ∀ fault', ¬ Fails file o k earlier fault'

/-! ### The checks that are made -/

/-- The fault of a path argument. -/
def nullFault (v : Value) : Option UsageFault := do
  let p ← Job.filePath? v
  if Job.isProper p then none else some (.nullInPath v)

/-- The fault that a check finds. -/
def verdict (file : Value) (options callback : Argument ω) : Check → Option UsageFault
  | .callback =>
    match callback with
    | .function _ | .value .none => none
    | .value v => some (.notCallback v)
  | .file => if (Job.filePath? file).isNone then some (.notFile file) else none
  | .options =>
    match options.options with
    | .error r => some (.options r)
    | .ok _ => none
  | .source => nullFault file
  | .destination =>
    match options.options with
    | .error _ => none
    | .ok o => o.destination?.bind fun d => nullFault (Job.destinationValue d)

theorem filePath?_eq_none_iff {v : Value} : Job.filePath? v = none ↔ ∀ t, ¬ Spells v t := by
  constructor
  · rintro hv t (_ | _) <;> cases hv
  · intro hv
    unfold Job.filePath?
    split
    · exact absurd (.text _) (hv _)
    · exact absurd (.path _) (hv _)
    · rfl

theorem hasNull_text {t : Text} : HasNull (.text t) ↔ '\x00' ∈ t :=
  ⟨fun ⟨_, .text _, hnull⟩ => hnull, fun hnull => ⟨t, .text t, hnull⟩⟩

theorem hasNull_path {p : Path} : HasNull (.path p) ↔ '\x00' ∈ p.toText :=
  ⟨fun ⟨_, .path _, hnull⟩ => hnull, fun hnull => ⟨_, .path p, hnull⟩⟩

theorem isProper_filePath_iff {v : Value} {p : Path} (hp : Job.filePath? v = some p) :
    Job.isProper p = false ↔ HasNull v := by
  unfold Job.filePath? at hp
  split at hp
  · obtain rfl := Option.some.inj hp
    rw [← Job.null_mem_iff, hasNull_text]
  · obtain rfl := Option.some.inj hp
    rw [← Job.null_mem_toText_iff, hasNull_path]
  · cases hp

theorem nullFault_eq_some_iff {v : Value} {fault : UsageFault} :
    nullFault v = some fault ↔ HasNull v ∧ fault = .nullInPath v := by
  cases hpath : Job.filePath? v with
  | none =>
    have hnot : ¬ HasNull v := fun ⟨t, ht, _⟩ => filePath?_eq_none_iff.1 hpath t ht
    simp [nullFault, hpath, hnot]
  | some p =>
    have hfault : nullFault v = if Job.isProper p then none else some (.nullInPath v) := by
      rw [nullFault, hpath]
      rfl
    rw [← isProper_filePath_iff hpath, hfault]
    cases Job.isProper p <;> simp [eq_comm]

/-- A check fails with the fault that it finds. -/
theorem fails_iff {file : Value} {options callback : Argument ω} {check : Check}
    {fault : UsageFault} : Fails file options callback check fault ↔
      verdict file options callback check = some fault := by
  constructor
  · intro hf
    cases hf with
    | @callback v hcallback hsome =>
      subst hcallback
      cases v <;> first | rfl | exact absurd rfl hsome
    | file hfile => simp only [verdict, filePath?_eq_none_iff.2 hfile, Option.isNone_none, if_true]
    | options hoptions => simp only [verdict, hoptions]
    | source hnull => exact nullFault_eq_some_iff.2 ⟨hnull, rfl⟩
    | @destination o d hoptions hout hsome hnull =>
      simp only [verdict, hoptions, Options.destination?_eq_some.2 ⟨hout, hsome⟩]
      exact nullFault_eq_some_iff.2 ⟨hnull, rfl⟩
  · intro hv
    cases check with
    | callback =>
      cases callback with
      | function k => cases hv
      | value v => cases v <;> cases hv <;> exact .callback rfl (by simp)
    | file =>
      obtain ⟨hnone, heq⟩ := Option.ite_none_right_eq_some.1 hv
      obtain rfl := Option.some.inj heq
      exact .file (filePath?_eq_none_iff.1 (Option.isNone_iff_eq_none.1 hnone))
    | options =>
      simp only [verdict] at hv
      split at hv
      · rename_i r hoptions
        obtain rfl := Option.some.inj hv
        exact .options hoptions
      · cases hv
    | source =>
      obtain ⟨hnull, rfl⟩ := nullFault_eq_some_iff.1 hv
      exact .source hnull
    | destination =>
      simp only [verdict] at hv
      split at hv
      · cases hv
      · rename_i o hoptions
        obtain ⟨d, hdest, hfault⟩ := Option.bind_eq_some_iff.1 hv
        obtain ⟨hnull, rfl⟩ := nullFault_eq_some_iff.1 hfault
        obtain ⟨hout, hsome⟩ := Options.destination?_eq_some.1 hdest
        exact .destination hoptions hout hsome hnull

/-- The first fault is the first one that is found along the checks. -/
theorem firstFault_iff {file : Value} {options callback : Argument ω} {fault : UsageFault} :
    FirstFault file options callback fault ↔
      Check.all.findSome? (verdict file (moved options callback).1 (moved options callback).2) =
        some fault := by
  simp only [FirstFault, List.findSome?_eq_some_iff, fails_iff, Option.eq_none_iff_forall_ne_some]

/-! ### What the checks let pass -/

/-- The job of a call, or what is wrong with its arguments. -/
def gate (current : Place) (file : Value) (options callback : Argument ω) : Except Failure Job :=
  match arguments options callback with
  | .error fault => .error (.usage fault)
  | .ok (o, _) => Job.check current file o

/-- Without a fault of the callback, the options that are read are those of the second argument. -/
theorem arguments_eq (options callback : Argument ω) :
    arguments options callback =
      match (moved options callback).2 with
      | .function k => .ok ((moved options callback).1.options, some k)
      | .value .none => .ok ((moved options callback).1.options, none)
      | .value v => .error (.notCallback v) := by
  rcases options with o | k <;> rcases callback with v | k' <;> first | rfl | (cases v <;> rfl)

theorem locate_eq {v : Value} {p : Path} (hp : Job.filePath? v = some p) (current : Place) :
    Job.locate current v p =
      match nullFault v with
      | some fault => .error (.usage fault)
      | none => .ok (p.resolve current) := by
  simp only [Job.locate, nullFault, hp, Option.bind_eq_bind, Option.bind_some]
  split <;> rfl

theorem filePath?_destinationValue (d : Text ⊕ Path) :
    Job.filePath? (Job.destinationValue d) = some (Job.destinationPath d) := by
  cases d <;> rfl

theorem checkDestination_eq (current : Place) (o : Options) :
    Job.checkDestination current o =
      match o.destination?.bind fun d => nullFault (Job.destinationValue d) with
      | some fault => .error (.usage fault)
      | none => .ok (o.destination?.map fun d => (Job.destinationPath d).resolve current) := by
  unfold Job.checkDestination
  cases o.destination? with
  | none => rfl
  | some d =>
    simp only [locate_eq (filePath?_destinationValue d), Option.bind_some, Option.map_some]
    cases nullFault (Job.destinationValue d) <;> rfl

theorem error_usage_iff {α : Type} {fault : UsageFault} {f : Failure} :
    (Except.error (.usage fault) : Except Failure α) = .error f ↔
      ∃ fault', some fault = some fault' ∧ f = .usage fault' := by
  simp [eq_comm]

/-- The checks of the file and the options, in their order. -/
theorem check_eq_error_iff {current : Place} {file : Value} {options callback : Argument ω}
    {f : Failure} : Job.check current file options.options = .error f ↔
      ∃ fault, [Check.file, .options, .source, .destination].findSome?
        (verdict file options callback) = some fault ∧ f = .usage fault := by
  simp only [List.findSome?_cons, List.findSome?_nil, verdict]
  unfold Job.check
  cases hfile : Job.filePath? file with
  | none => exact error_usage_iff
  | some p =>
    cases options.options with
    | error r => exact error_usage_iff
    | ok o =>
      -- the source is located before the destination, and neither reports anything but its path
      simp only [locate_eq hfile, checkDestination_eq]
      cases nullFault file with
      | some fault => exact error_usage_iff
      | none =>
        cases o.destination?.bind fun d => nullFault (Job.destinationValue d) with
        | some fault => exact error_usage_iff
        | none => exact ⟨nofun, fun ⟨_, hfault, _⟩ => nomatch hfault⟩

/-- **The gate reports the first fault.** -/
theorem gate_eq_error_iff {current : Place} {file : Value} {options callback : Argument ω}
    {f : Failure} : gate current file options callback = .error f ↔
      ∃ fault, FirstFault file options callback fault ∧ f = .usage fault := by
  simp only [firstFault_iff, gate, arguments_eq, Check.all]
  rcases moved options callback with ⟨o, v | k⟩
  · cases v with
    | none => exact check_eq_error_iff
    | _ => exact error_usage_iff
  · exact check_eq_error_iff

/-! ### What a call tells the outside -/

/-- What a call tells the renderer, the logger or the callback. -/
inductive Event where
  | asked (equation : Equation)
  | said (severity : Severity) (text : Text)
  | handed (error : Option Failure) (html : Option Text)

/-- Writes an event down, and does what it stands for. -/
def noting {α : Type} (e : Event) (a : Action ω α) : Action (ω × List Event) α := fun s =>
  ((a s.1).1, (a s.1).2, s.2 ++ [e])

theorem noting_over {α : Type} (e : Event) (a : Action ω α) :
    Action.Over Prod.fst (noting e a) a := fun _ => rfl

/-- The callback that writes down what it is handed. -/
def Callback.observed (k : Callback ω) : Callback (ω × List Event) := fun error html =>
  noting (.handed error html) (k error html)

def Argument.observed : Argument ω → Argument (ω × List Event)
  | .value v => .value v
  | .function k => .function k.observed

end Conversion

/-- The host that writes down what it is told. -/
def Host.observed {ω : Type} (h : Host ω) : Host (ω × List Conversion.Event) where
  render e := Conversion.noting (.asked e) (h.render e)
  log severity t := Conversion.noting (.said severity t) (h.log severity t)

theorem Host.observed_over {ω : Type} (h : Host ω) : Host.Over Prod.fst h.observed h :=
  ⟨fun _ => Conversion.noting_over _ _, fun _ _ => Conversion.noting_over _ _⟩

namespace Conversion

section Events

variable {α β : Type} {h : Host ω}

/-- An action that gives a result and does nothing beside it but send debug messages. -/
def Notes (a : Action (ω × List Event) α) (e : Except Failure α) : Prop :=
  ∀ w es, ∃ (v : ω) (texts : List Text), a (w, es) = (e, v, es ++ texts.map (Event.said .debug))

theorem notes_ofExcept (e : Except Failure α) :
    Notes (Action.ofExcept e : Action (ω × List Event) α) e := fun w es => ⟨w, [], by
  rw [List.map_nil, List.append_nil]
  rfl⟩

theorem notes_pure (x : α) : Notes (pure x : Action (ω × List Event) α) (.ok x) :=
  notes_ofExcept (.ok x)

theorem notes_log (hq : h.NeverRefuses) (t : Text) :
    Notes (h.observed.log .debug t) (.ok ()) := fun w _ =>
  ⟨(h.log .debug t w).2, [t], Prod.ext (hq _ _ _) rfl⟩

theorem Notes.bind {a : Action (ω × List Event) α} {k : α → Action (ω × List Event) β}
    {e : Except Failure α} {g : α → Except Failure β} (ha : Notes a e)
    (hk : ∀ x, Notes (k x) (g x)) : Notes (a >>= k) (e >>= g) := by
  intro w es
  obtain ⟨v, texts, hstep⟩ := ha w es
  cases e with
  | error f => exact ⟨v, texts, Action.bind_of_error hstep⟩
  | ok x =>
    obtain ⟨v', texts', hstep'⟩ := hk x v (es ++ texts.map (Event.said .debug))
    refine ⟨v', texts ++ texts', ?_⟩
    rw [Action.bind_of_ok hstep, hstep', List.map_append, List.append_assoc]
    rfl

/-- A debug message in front of an action. -/
theorem Notes.after_log (hq : h.NeverRefuses) {t : Text} {k : Unit → Action (ω × List Event) α}
    {e : Except Failure α} (hk : ∀ x, Notes (k x) e) : Notes (h.observed.log .debug t >>= k) e := by
  show Notes _ (Except.ok () >>= fun _ => e)
  exact (notes_log hq t).bind hk

theorem locateDestination_notes (hq : h.NeverRefuses) (current : Place) (o : Options) :
    Notes (Job.locateDestination h.observed current o) (Job.checkDestination current o) := by
  unfold Job.locateDestination Job.checkDestination
  cases o.destination? with
  | none => exact notes_pure none
  | some d => exact (notes_ofExcept _).bind fun _ => .after_log hq fun _ => notes_pure _

theorem prepare_notes (hq : h.NeverRefuses) (current : Place) (file : Value)
    (options : Except Options.Refusal Options) :
    Notes (Job.prepare h.observed current file options) (Job.check current file options) := by
  unfold Job.prepare Job.check
  cases Job.filePath? file with
  | none => exact notes_ofExcept _
  | some path =>
    cases options with
    | error r => exact notes_ofExcept _
    | ok o =>
      refine .after_log hq fun _ => (notes_ofExcept _).bind fun source => .after_log hq fun _ => ?_
      exact (locateDestination_notes hq current o).bind fun _ => notes_pure _

end Events

/-! ### Whole calls -/

variable {h : Host ω}

theorem arguments_observed (options callback : Argument ω) :
    arguments options.observed callback.observed =
      (arguments options callback).map fun (o, k) => (o, k.map Callback.observed) := by
  rcases options with o | k <;> rcases callback with v | k' <;> first | rfl | (cases v <;> rfl)

/-- A call that is written down is the call. -/
theorem call_observed (h : Host ω) (current : Place) (file : Value)
    (options callback : Argument ω) :
    Action.Over (World.map Prod.fst)
      (call h.observed current file options.observed callback.observed)
      (call h current file options callback) := by
  unfold call
  rw [arguments_observed]
  cases arguments options callback with
  | error fault => exact Action.over_fail _
  | ok ok =>
    obtain ⟨o, k⟩ := ok
    refine (begin_over h.observed_over current file o).bind fun outcome => ?_
    cases k with
    | none => exact Action.over_result outcome
    | some k =>
      exact (Job.outside_over (noting_over _ _)).bind fun _ => Action.over_result outcome

/-- A call that is refused has looked at no file and sent debug messages only. -/
theorem call_of_gate_eq_error (hq : h.NeverRefuses) {current : Place} {file : Value}
    {options callback : Argument ω} {f : Failure}
    (hf : gate current file options callback = .error f) (w : ω) :
    ∃ (v : ω) (messages : List Text), ∀ d,
      call h.observed current file options.observed callback.observed ⟨d, w, []⟩ =
        (.error f, ⟨d, v, messages.map (Event.said .debug)⟩) := by
  unfold call
  rw [arguments_observed]
  unfold gate at hf
  cases hk : arguments options callback with
  | error fault =>
    simp only [hk] at hf
    cases hf
    exact ⟨w, [], fun d => rfl⟩
  | ok ok =>
    simp only [hk] at hf
    obtain ⟨v, messages, hprepare⟩ := prepare_notes hq current file ok.1 w []
    rw [hf, List.nil_append] at hprepare
    -- the checks are an action outside the files, so that their outcome is the same for all drives
    exact ⟨v, messages, fun d => Action.bind_of_error (Action.bind_of_error
      (Job.outside_of_eq (w := (⟨d, w, []⟩ : World (ω × List Event))) hprepare))⟩

/-- The argument takes every outcome, if it is a function. -/
def Argument.NeverFails : Argument ω → Prop
  | .value _ => True
  | .function k => ∀ error html w, (k error html w).1 = .ok ()

/-- A call that is not refused ends with an outcome. -/
theorem call_of_gate_eq_ok (hq : h.NeverRefuses) {current : Place} {file : Value}
    {options callback : Argument ω} (hk : (moved options callback).2.NeverFails) {j : Job}
    (hj : gate current file options callback = .ok j) (w : World ω) :
    ∃ outcome, (call h current file options callback w).1 = .ok outcome := by
  have hbegin : ∀ o : Except Options.Refusal Options, Job.check current file o = .ok j →
      ∃ outcome v, begin h current file o w = (.ok outcome, v) := fun o ho => by
    obtain ⟨u, hprepare, -⟩ := (Job.prepare_computes h current file o).exists_eq hq w.outside
    rw [ho] at hprepare
    obtain ⟨outcome, v, hrun, -⟩ := run_delivers hq j ⟨w.drive, u⟩
    exact ⟨outcome, v, (begin_of_ok hprepare).trans hrun⟩
  rcases hm : moved options callback with ⟨o, v | k⟩
  · cases v with
    | none =>
      simp only [gate, call, arguments_eq, hm] at hj ⊢
      obtain ⟨outcome, v, hrun⟩ := hbegin _ hj
      exact ⟨outcome, congrArg Prod.fst (Action.bind_of_ok hrun)⟩
    | _ =>
      simp only [gate, arguments_eq, hm] at hj
      cases hj
  · simp only [gate, call, arguments_eq, hm] at hj ⊢
    obtain ⟨outcome, v, hrun⟩ := hbegin _ hj
    have hdone : (k outcome.error outcome.html v.outside).1 = .ok () := (hm ▸ hk) _ _ _
    refine ⟨outcome, ?_⟩
    rw [Action.bind_of_ok hrun]
    show ((Job.outside (k outcome.error outcome.html) >>= fun _ => pure outcome) v).1 = _
    rw [Job.outside_bind_pure, hdone]
    rfl

/-- A call with a first fault is refused for it, whatever files there are. -/
theorem call_of_firstFault (hq : h.NeverRefuses) (current : Place) {file : Value}
    {options callback : Argument ω} {fault : UsageFault}
    (hfirst : FirstFault file options callback fault) (w : ω) :
    ∃ (v : ω) (messages : List Text), ∀ d : Drive,
      call h current file options callback ⟨d, w⟩ = (.error (.usage fault), ⟨d, v⟩) ∧
      call h.observed current file options.observed callback.observed ⟨d, w, []⟩ =
        (.error (.usage fault), ⟨d, v, messages.map (Event.said .debug)⟩) := by
  have hgate : gate current file options callback = .error (.usage fault) :=
    gate_eq_error_iff.2 ⟨fault, hfirst, rfl⟩
  obtain ⟨v, messages, hcall⟩ := call_of_gate_eq_error hq hgate w
  refine ⟨v, messages, fun d => ⟨?_, hcall d⟩⟩
  have hover := call_observed h current file options callback ⟨d, w, []⟩
  rw [hcall d] at hover
  exact hover

/-- **A call is refused exactly for the first fault of its arguments**, and before anything is done:
whatever files there are, the call ends in the same way, they stay as they are, and of the renderer,
the logger and the callback only the logger is told something, in debug messages. A function in the
place of the options is the same as one in the place of the callback. -/
theorem call_refuses_first_fault (hq : h.NeverRefuses) (current : Place) (file : Value)
    {options callback : Argument ω} (hk : (moved options callback).2.NeverFails) :
    (∀ w f, (call h current file options callback w).1 = .error f ↔
      ∃ fault, FirstFault file options callback fault ∧ f = .usage fault) ∧
    (∀ fault, FirstFault file options callback fault → ∀ w : ω,
      ∃ (v : ω) (messages : List Text), ∀ d : Drive,
        call h current file options callback ⟨d, w⟩ = (.error (.usage fault), ⟨d, v⟩) ∧
        call h.observed current file options.observed callback.observed ⟨d, w, []⟩ =
          (.error (.usage fault), ⟨d, v, messages.map (Event.said .debug)⟩)) ∧
    ∀ k : Callback ω, call h current file (.function k) (.value .none) =
      call h current file (.value .none) (.function k) := by
  refine ⟨fun w f => ⟨fun hf => ?_, ?_⟩,
    fun fault hfirst => call_of_firstFault hq current hfirst, fun k => rfl⟩
  · cases hgate : gate current file options callback with
    | error f' =>
      obtain ⟨fault, hfirst, rfl⟩ := gate_eq_error_iff.1 hgate
      obtain ⟨v, messages, hcall⟩ := call_of_firstFault hq current hfirst w.outside
      rw [(hcall w.drive).1] at hf
      exact ⟨fault, hfirst, (Except.error.inj hf).symm⟩
    | ok j =>
      obtain ⟨outcome, hcall⟩ := call_of_gate_eq_ok hq hk hgate w
      rw [hcall] at hf
      cases hf
  · rintro ⟨fault, hfirst, rfl⟩
    obtain ⟨v, messages, hcall⟩ := call_of_firstFault hq current hfirst w.outside
    rw [(hcall w.drive).1]

/-- Options whose destination has a null character. -/
def nullSample : Argument ℕ := .value (.options { out := some (.inl "b\x00".toList) })

/-- Of two paths with a null character the source is reported. -/
example : call Pass.counter ["box".toList] (.text "a\x00".toList) nullSample (.function tally)
    ⟨sampleDrive, 0⟩ = (.error (.usage (.nullInPath (.text "a\x00".toList))), ⟨sampleDrive, 0⟩) := rfl

end Conversion

end MathPage
