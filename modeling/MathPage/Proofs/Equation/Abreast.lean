import MathPage.Proofs.Equation.Siblings

/-!
# Two passes side by side

* `Action.Twin`, `Host.Twin` – actions and hosts that answer alike in states that a relation keeps
  together;
* `Pass.ReadAlike` – an element of one pass and one of another that stand for the same, however many
  pieces both stashes have gained;
* `Pass.Abreast` – two passes that began with different stashes and have gained the same pieces;
* `Edit.Twin` – the same edit, with an image that is numbered from the one beginning or the other.

What a scan does to a list of siblings depends on what its elements stand for, and on nothing else of
the stash. Two scans whose elements stand for the same therefore make the same edits, apart from the
numbers of their images, and gain the same pieces (`scan_abreast`).
-/

namespace MathPage

variable {ω ω' : Type} {W : ω → ω' → Prop} {h : Host ω} {h' : Host ω'}

namespace Action

variable {σ τ α β : Type} {R : σ → τ → Prop}

/-- Begun in related states, the two actions end alike and in related states. -/
def Twin (R : σ → τ → Prop) (a : Action σ α) (b : Action τ α) : Prop :=
  ∀ s t, R s t → (a s).1 = (b t).1 ∧ R (a s).2 (b t).2

theorem twin_ofExcept (e : Except Failure α) : Twin R (ofExcept e) (ofExcept e) :=
  fun _ _ hst => ⟨rfl, hst⟩

theorem Twin.bind {a : Action σ α} {b : Action τ α} {k : α → Action σ β} {l : α → Action τ β}
    (hab : Twin R a b) (hkl : ∀ x, Twin R (k x) (l x)) : Twin R (a >>= k) (b >>= l) := by
  intro s t hst
  obtain ⟨hresult, hstate⟩ := hab s t hst
  rcases has : a s with ⟨f | x, s₁⟩ <;> rcases hbt : b t with ⟨f' | y, t₁⟩ <;>
    rw [has, hbt] at hresult hstate
  · rw [bind_of_error has, bind_of_error hbt]
    exact ⟨congrArg _ (Except.error.inj hresult), hstate⟩
  · cases hresult
  · cases hresult
  · obtain rfl := Except.ok.inj hresult
    rw [bind_of_ok has, bind_of_ok hbt]
    exact hkl x s₁ t₁ hstate

/-- How the second of two such actions ends, if it is known how the first does. -/
theorem Twin.exists_eq {a : Action σ α} {b : Action τ α} (hab : Twin R a b) {s s₁ : σ} {t : τ}
    (hst : R s t) {r : Except Failure α} (has : a s = (r, s₁)) : ∃ t₁, b t = (r, t₁) ∧ R s₁ t₁ := by
  obtain ⟨hresult, hstate⟩ := hab s t hst
  rw [has] at hresult hstate
  exact ⟨(b t).2, Prod.ext hresult.symm rfl, hstate⟩

end Action

/-- Two hosts that answer alike in related states of the outside. -/
structure Host.Twin (W : ω → ω' → Prop) (h : Host ω) (h' : Host ω') : Prop where
  render : ∀ e, Action.Twin W (h.render e) (h'.render e)
  log : ∀ severity t, Action.Twin W (h.log severity t) (h'.log severity t)

theorem Marker.read_twin (hw : Host.Twin W h h') (t : Text) :
    Action.Twin W (Marker.read h t) (Marker.read h' t) := by
  unfold Marker.read
  cases Marker.attributes t with
  | error f => exact (hw.log _ _).bind fun _ => Action.twin_ofExcept _
  | ok e =>
    exact (hw.log _ _).bind fun _ => (hw.log _ _).bind fun _ => (hw.log _ _).bind fun _ =>
      Action.twin_ofExcept _

/-- Two edits that are the same but for the number of their image, which is counted from `n` in the
one and from `n'` in the other. -/
inductive Edit.Twin (n n' k : ℕ) : Edit → Edit → Prop where
  | keep : Twin n n' k .keep .keep
  | insert {i : ℕ} (hi : i < k) :
    Twin n n' k (.insert (Stash.image (n + i))) (.insert (Stash.image (n' + i)))
  | replace {i : ℕ} (hi : i < k) :
    Twin n n' k (.replace (Stash.image (n + i))) (.replace (Stash.image (n' + i)))

namespace Pass

/-- The second element stands for what the first one stands for, in stashes that begin differently
and go on alike. -/
def ReadAlike (l l' : List Stash.Entry) (e e' : Element) : Prop :=
  ∀ more, Stash.value? ⟨l' ++ more⟩ e' = Stash.value? ⟨l ++ more⟩ e

/-- Two passes that began with the stashes `l` and `l'` and have gained the same pieces. -/
structure Abreast (W : ω → ω' → Prop) (l l' more : List Stash.Entry) (s : State ω)
    (s' : State ω') : Prop where
  first : s.stash.entries = l ++ more
  second : s'.stash.entries = l' ++ more
  outside : W s.outside s'.outside

variable {l l' more : List Stash.Entry}

section Markers

variable {e e' : Element} {s : State ω} {s' : State ω'}

theorem Abreast.value?_eq (hs : Abreast W l l' more s s') (he : ReadAlike l l' e e') :
    s'.stash.value? e' = s.stash.value? e := by
  obtain ⟨⟨entries⟩, w⟩ := s
  obtain ⟨⟨entries'⟩, w'⟩ := s'
  obtain rfl : entries = l ++ more := hs.first
  obtain rfl : entries' = l' ++ more := hs.second
  exact he more

theorem Abreast.startMarker?_eq (hs : Abreast W l l' more s s') (he : ReadAlike l l' e e') :
    startMarker? s'.stash e' = startMarker? s.stash e := startMarker?_congr (hs.value?_eq he)

theorem Abreast.isEndMarker_eq (hs : Abreast W l l' more s s') (he : ReadAlike l l' e e') :
    isEndMarker s'.stash e' = isEndMarker s.stash e := isEndMarker_congr (hs.value?_eq he)

end Markers

/-! ### Start markers -/

theorem outside_twin {α : Type} {a : Action ω α} {a' : Action ω' α} (ha : Action.Twin W a a') :
    Action.Twin (Abreast W l l' more) (outside a) (outside a') := fun s s' hs => by
  obtain ⟨hresult, houtside⟩ := ha s.outside s'.outside hs.outside
  exact ⟨hresult, hs.first, hs.second, houtside⟩

theorem note_twin (hw : Host.Twin W h h') (t : Text) :
    Action.Twin (Abreast W l l' more) (note h t) (note h' t) := outside_twin (hw.log _ _)

theorem unclosed_twin (hw : Host.Twin W h h') (marker : Text) :
    Action.Twin (Abreast W l l' more) (unclosed h marker) (unclosed h' marker) :=
  (note_twin hw _).bind fun _ => Action.twin_ofExcept (.error _)

/-- The HTML that the renderer gives for a start marker. -/
def answered (h : Host ω) (marker : Text) : Action (State ω) (Option Text) := do
  note h "Found an equation...".toList
  let equation ← outside (Marker.read h marker)
  outside (h.render equation)

theorem opened_eq (h : Host ω) (marker : Text) :
    opened h marker = answered h marker >>= keepHtml := by
  simp only [opened, answered, image, Action.bind_assoc]

theorem answered_twin (hw : Host.Twin W h h') (marker : Text) :
    Action.Twin (Abreast W l l' more) (answered h marker) (answered h' marker) :=
  (note_twin hw _).bind fun _ => (outside_twin (Marker.read_twin hw marker)).bind fun e =>
    outside_twin (hw.render e)

theorem opened_abreast_of_error (hw : Host.Twin W h h') {marker : Text} {f : Failure}
    {s s₁ : State ω} {s' : State ω'} (hs : Abreast W l l' more s s')
    (ho : opened h marker s = (.error f, s₁)) :
    ∃ s₁', opened h' marker s' = (.error f, s₁') ∧ Abreast W l l' more s₁ s₁' := by
  rw [opened_eq] at ho
  rcases Action.bind_eq_error ho with ha | ⟨html, u, -, hkeep⟩
  · obtain ⟨s₁', ha', hs₁⟩ := (answered_twin hw marker).exists_eq hs ha
    exact ⟨s₁', by rw [opened_eq, Action.bind_of_error ha'], hs₁⟩
  · cases hkeep

/-- The piece that is kept of rendered HTML. -/
def kept : Option Text → Stash.Entry
  | some t => .html t
  | none => .nothing

theorem keepHtml_kept (html : Option Text) (s : State ω) :
    keepHtml html s = (.ok (Stash.image s.stash.entries.length),
      ⟨⟨s.stash.entries ++ [kept html]⟩, s.outside⟩) := by
  cases html <;> rfl

/-- The images of a start marker are numbered by the pieces that both passes have gained. -/
theorem opened_abreast_of_ok (hw : Host.Twin W h h') {marker : Text} {new : Element}
    {s s₁ : State ω} {s' : State ω'} (hs : Abreast W l l' more s s')
    (ho : opened h marker s = (.ok new, s₁)) :
    ∃ entry s₁', new = Stash.image (l.length + more.length) ∧
      opened h' marker s' = (.ok (Stash.image (l'.length + more.length)), s₁') ∧
      Abreast W l l' (more ++ [entry]) s₁ s₁' := by
  rw [opened_eq] at ho
  obtain ⟨html, u, ha, hkeep⟩ := Action.bind_eq_ok ho
  obtain ⟨u', ha', hu⟩ := (answered_twin hw marker).exists_eq hs ha
  rw [keepHtml_kept, hu.first] at hkeep
  obtain ⟨hnew, rfl⟩ := Prod.mk.inj hkeep
  refine ⟨kept html, ⟨⟨u'.stash.entries ++ [kept html]⟩, u'.outside⟩, ?_, ?_, ?_, ?_, hu.outside⟩
  · rw [← List.length_append]
    exact (Except.ok.inj hnew).symm
  · rw [opened_eq, Action.bind_of_ok ha', keepHtml_kept, hu.second, List.length_append]
  · exact List.append_assoc ..
  · show u'.stash.entries ++ [kept html] = _
    rw [hu.second, List.append_assoc]

/-! ### Lists of siblings -/

/-- The outcomes of two scans: the same count and the same end, and edits that are the same but for
the numbers of their images. -/
structure Scanned (W : ω → ω' → Prop) (l l' more : List Stash.Entry)
    (p : Progress ω (List Edit)) (p' : Progress ω' (List Edit)) : Prop where
  count : p'.count = p.count
  failure : p'.failure = p.failure
  edits : List.Forall₂ (Edit.Twin l.length l'.length more.length) p.made p'.made
  state : Abreast W l l' more p.state p'.state

theorem Scanned.failed {f : Failure} {s : State ω} {s' : State ω'}
    (hs : Abreast W l l' more s s') :
    Scanned W l l' more (Progress.failed [] f s) (Progress.failed [] f s') :=
  ⟨rfl, rfl, .nil, hs⟩

theorem Scanned.keep {p : Progress ω (List Edit)} {p' : Progress ω' (List Edit)}
    (hp : Scanned W l l' more p p') :
    Scanned W l l' more { p with made := .keep :: p.made } { p' with made := .keep :: p'.made } :=
  ⟨hp.count, hp.failure, .cons .keep hp.edits, hp.state⟩

theorem Scanned.pair {edit edit' : Edit} {p : Progress ω (List Edit)}
    {p' : Progress ω' (List Edit)} (hp : Scanned W l l' more p p')
    (hedit : Edit.Twin l.length l'.length more.length edit edit') :
    Scanned W l l' more (p.pair [.keep, edit, .keep]) (p'.pair [.keep, edit', .keep]) :=
  ⟨congrArg (· + 1) hp.count, hp.failure, .cons .keep (.cons hedit (.cons .keep hp.edits)),
    hp.state⟩

/-- **Two scans of siblings that stand for the same go the same way.** -/
theorem scan_abreast (hw : Host.Twin W h h') {es : List Element} {es' : List Element}
    (hes : List.Forall₂ (ReadAlike l l') es es') {s : State ω} {s' : State ω'}
    (hs : Abreast W l l' more s s') :
    ∃ gained, Scanned W l l' (more ++ gained) (scan h es s) (scan h' es' s') := by
  fun_induction scan h es s generalizing es' s' more with
  | case1 s =>
    cases hes
    exact ⟨[], rfl, rfl, .nil, by rwa [List.append_nil]⟩
  | case2 =>
    rename_i hplain p ih
    obtain _ | ⟨he, hrest⟩ := hes
    have hplain' := (hs.startMarker?_eq he).trans hplain
    obtain ⟨gained, hscanned⟩ := ih hrest hs
    exact ⟨gained, by simpa only [scan, hplain'] using hscanned.keep⟩
  | case3 e rest s marker hstart f s₁ hopened =>
    obtain _ | ⟨he, hrest⟩ := hes
    have hstart' := (hs.startMarker?_eq he).trans hstart
    obtain ⟨s₁', hopened', hs₁⟩ := opened_abreast_of_error hw hs hopened
    refine ⟨[], ?_⟩
    simpa only [scan, hstart', hopened', List.append_nil] using Scanned.failed hs₁
  | case4 e s marker hstart new s₁ hopened f s₂ hunclosed =>
    obtain _ | ⟨he, _ | _⟩ := hes
    have hstart' := (hs.startMarker?_eq he).trans hstart
    obtain ⟨entry, s₁', -, hopened', hs₁⟩ := opened_abreast_of_ok hw hs hopened
    obtain ⟨s₂', hunclosed', hs₂⟩ := (unclosed_twin hw marker).exists_eq hs₁ hunclosed
    refine ⟨[entry], ?_⟩
    simpa only [scan, hstart', hopened', hunclosed'] using Scanned.failed hs₂
  | case5 | case9 | case13 => exact absurd ‹unclosed h _ _ = _› unclosed_ne_ok
  | case6 e s marker hstart new s₁ hopened stop rest hstop f s₂ hnote =>
    obtain _ | ⟨he, _ | ⟨hnext, hrest⟩⟩ := hes
    have hstart' := (hs.startMarker?_eq he).trans hstart
    obtain ⟨entry, s₁', -, hopened', hs₁⟩ := opened_abreast_of_ok hw hs hopened
    have hstop' := (hs₁.isEndMarker_eq hnext).trans hstop
    obtain ⟨s₂', hnote', hs₂⟩ := (note_twin hw _).exists_eq hs₁ hnote
    refine ⟨[entry], ?_⟩
    simpa only [scan, hstart', hopened', hstop', if_true, hnote'] using Scanned.failed hs₂
  | case7 e s marker hstart new s₁ hopened stop rest hstop _ s₂ hnote ih =>
    obtain _ | ⟨he, _ | ⟨hnext, hrest⟩⟩ := hes
    have hstart' := (hs.startMarker?_eq he).trans hstart
    obtain ⟨entry, s₁', rfl, hopened', hs₁⟩ := opened_abreast_of_ok hw hs hopened
    have hstop' := (hs₁.isEndMarker_eq hnext).trans hstop
    obtain ⟨s₂', hnote', hs₂⟩ := (note_twin hw _).exists_eq hs₁ hnote
    obtain ⟨gained, hscanned⟩ := ih hrest hs₂
    rw [List.append_assoc] at hscanned
    refine ⟨[entry] ++ gained, ?_⟩
    simpa only [scan, hstart', hopened', hstop', if_true, hnote'] using
      hscanned.pair (.insert (by simp))
  | case8 e s marker hstart new s₁ hopened next hstop f s₂ hunclosed =>
    obtain _ | ⟨he, _ | ⟨hnext, _ | _⟩⟩ := hes
    have hstart' := (hs.startMarker?_eq he).trans hstart
    obtain ⟨entry, s₁', -, hopened', hs₁⟩ := opened_abreast_of_ok hw hs hopened
    have hstop' := (hs₁.isEndMarker_eq hnext).trans (Bool.eq_false_iff.2 hstop)
    obtain ⟨s₂', hunclosed', hs₂⟩ := (unclosed_twin hw marker).exists_eq hs₁ hunclosed
    refine ⟨[entry], ?_⟩
    simpa only [scan, hstart', hopened', hstop', Bool.false_eq_true, if_false, hunclosed'] using
      Scanned.failed hs₂
  | case10 e s marker hstart new s₁ hopened old hold stop rest hstop f s₂ hnote =>
    obtain _ | ⟨he, _ | ⟨hnext, _ | ⟨hthird, hrest⟩⟩⟩ := hes
    have hstart' := (hs.startMarker?_eq he).trans hstart
    obtain ⟨entry, s₁', -, hopened', hs₁⟩ := opened_abreast_of_ok hw hs hopened
    have hold' := (hs₁.isEndMarker_eq hnext).trans (Bool.eq_false_iff.2 hold)
    have hstop' := (hs₁.isEndMarker_eq hthird).trans hstop
    obtain ⟨s₂', hnote', hs₂⟩ := (note_twin hw _).exists_eq hs₁ hnote
    refine ⟨[entry], ?_⟩
    simpa only [scan, hstart', hopened', hold', Bool.false_eq_true, if_false, hstop', if_true,
      hnote'] using Scanned.failed hs₂
  | case11 e s marker hstart new s₁ hopened old hold stop rest hstop _ s₂ hnote ih =>
    obtain _ | ⟨he, _ | ⟨hnext, _ | ⟨hthird, hrest⟩⟩⟩ := hes
    have hstart' := (hs.startMarker?_eq he).trans hstart
    obtain ⟨entry, s₁', rfl, hopened', hs₁⟩ := opened_abreast_of_ok hw hs hopened
    have hold' := (hs₁.isEndMarker_eq hnext).trans (Bool.eq_false_iff.2 hold)
    have hstop' := (hs₁.isEndMarker_eq hthird).trans hstop
    obtain ⟨s₂', hnote', hs₂⟩ := (note_twin hw _).exists_eq hs₁ hnote
    obtain ⟨gained, hscanned⟩ := ih hrest hs₂
    rw [List.append_assoc] at hscanned
    refine ⟨[entry] ++ gained, ?_⟩
    simpa only [scan, hstart', hopened', hold', Bool.false_eq_true, if_false, hstop', if_true,
      hnote'] using hscanned.pair (.replace (by simp))
  | case12 e s marker hstart new s₁ hopened old hold third rest hstop f s₂ hunclosed =>
    obtain _ | ⟨he, _ | ⟨hnext, _ | ⟨hthird, hrest⟩⟩⟩ := hes
    have hstart' := (hs.startMarker?_eq he).trans hstart
    obtain ⟨entry, s₁', -, hopened', hs₁⟩ := opened_abreast_of_ok hw hs hopened
    have hold' := (hs₁.isEndMarker_eq hnext).trans (Bool.eq_false_iff.2 hold)
    have hstop' := (hs₁.isEndMarker_eq hthird).trans (Bool.eq_false_iff.2 hstop)
    obtain ⟨s₂', hunclosed', hs₂⟩ := (unclosed_twin hw marker).exists_eq hs₁ hunclosed
    refine ⟨[entry], ?_⟩
    simpa only [scan, hstart', hopened', hold', hstop', Bool.false_eq_true, if_false,
      hunclosed'] using Scanned.failed hs₂

end Pass

end MathPage
