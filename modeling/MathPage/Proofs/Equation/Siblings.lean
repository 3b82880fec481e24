import MathPage.Equation.Pass
import MathPage.Proofs.Document.Stash
import MathPage.Proofs.Equation.Marker

/-!
# The edits of one list of siblings

* `Answer` – an equation with the HTML that the renderer gave for it;
* `Pass.Rendered` – what a start marker does that is read and rendered: log messages, one call of the
  renderer, one piece at the end of the stash;
* `Pass.Ran` – several start markers one after the other;
* `Pass.Edited` – a list of siblings that is edited to its end: elements that stand for no start
  marker, pairs that an image is put into, and pairs whose content an image replaces.

A scan that no failure ends is such an edit (`edited_of_scan`), and all that it does beside the
edits is to run its start markers (`Edited.ran`).
-/

namespace MathPage

/-- An equation with the HTML that the renderer gave for it. -/
structure Answer where
  equation : Equation
  html : Option Text

/-- The piece that a rendered equation leaves in the stash. -/
def Answer.entry (a : Answer) : Stash.Entry :=
  match a.html with
  | some t => .html t
  | none => .nothing

/-- The answer as a call of the renderer. -/
def Answer.call (a : Answer) : Call := ⟨a.equation, .ok a.html⟩

namespace Pass

variable {ω : Type} {h : Host ω}

/-! ### Markers among siblings -/

theorem startMarker?_congr {s t : Stash} {e e' : Element} (hv : t.value? e' = s.value? e) :
    startMarker? t e' = startMarker? s e := by
  rw [startMarker?, startMarker?, hv]

theorem isEndMarker_congr {s t : Stash} {e e' : Element} (hv : t.value? e' = s.value? e) :
    isEndMarker t e' = isEndMarker s e := by
  rw [isEndMarker, isEndMarker, hv]

/-- A stash that grows changes no marker that it covers. -/
theorem startMarker?_eq_of_extends {s t : Stash} {e : Element} (hst : s.Extends t)
    (hc : s.Covers e) : startMarker? t e = startMarker? s e :=
  startMarker?_congr (Stash.value?_of_extends hst hc)

theorem isEndMarker_eq_of_extends {s t : Stash} {e : Element} (hst : s.Extends t)
    (hc : s.Covers e) : isEndMarker t e = isEndMarker s e :=
  isEndMarker_congr (Stash.value?_of_extends hst hc)

/-- An element that stands for an end marker stands for no start marker. -/
theorem startMarker?_of_isEndMarker {s : Stash} {e : Element} (he : isEndMarker s e = true) :
    startMarker? s e = none := by
  unfold isEndMarker at he
  unfold startMarker?
  cases hv : s.value? e with
  | none => rfl
  | some t =>
    rw [hv, Option.any_some] at he
    simp [Marker.not_isStart_of_isEnd he]

/-! ### One start marker -/

/-- What a start marker does that is read and rendered. -/
structure Rendered (h : Host ω) (marker : Text) (a : Answer) (s s₁ : State ω) : Prop where
  attributes : Marker.attributes marker = .ok a.equation
  rendered : ∃ w, h.Logged s.outside w ∧ h.render a.equation w = (.ok a.html, s₁.outside)
  entries : s₁.stash.entries = s.stash.entries ++ [a.entry]

theorem note_eq {t : Text} {s s₁ : State ω} {r : Except Failure Unit}
    (hn : note h t s = (r, s₁)) : s₁.stash = s.stash ∧ h.Logged s.outside s₁.outside := by
  obtain ⟨-, rfl⟩ := Prod.mk.inj hn
  exact ⟨rfl, Host.logged_log h .debug t s.outside⟩

theorem exists_note_eq_ok (hq : h.NeverRefuses) (t : Text) (s : State ω) :
    ∃ w, note h t s = (.ok (), ⟨s.stash, w⟩) ∧ h.Logged s.outside w :=
  ⟨(h.log .debug t s.outside).2, by rw [← hq .debug t s.outside]; rfl,
    Host.logged_log h .debug t s.outside⟩

theorem outside_eq_ok {α : Type} {a : Action ω α} {s s₁ : State ω} {x : α}
    (ho : outside a s = (.ok x, s₁)) :
    s₁.stash = s.stash ∧ a s.outside = (.ok x, s₁.outside) := by
  obtain ⟨hx, rfl⟩ := Prod.mk.inj ho
  exact ⟨rfl, Prod.ext hx rfl⟩

theorem outside_of_eq {α : Type} {a : Action ω α} {s : State ω} {r : Except Failure α} {w : ω}
    (ha : a s.outside = (r, w)) : outside a s = (r, { s with outside := w }) := by
  simp only [outside, Action.onPart, ha]

theorem keepHtml_eq (a : Answer) (s : State ω) :
    keepHtml a.html s = (.ok (Stash.image s.stash.entries.length),
      { s with stash := (s.stash.store a.entry).2 }) := by
  obtain ⟨e, _ | t⟩ := a <;> rfl

/-- A start marker that is announced and rendered gives the image of the next piece. -/
theorem opened_eq_ok {marker : Text} {s s₁ : State ω} {new : Element}
    (ho : opened h marker s = (.ok new, s₁)) :
    ∃ a, Rendered h marker a s s₁ ∧ new = Stash.image s.stash.entries.length := by
  obtain ⟨_, u, hnote, ho⟩ := Action.bind_eq_ok ho
  obtain ⟨e, v, hread, ho⟩ := Action.bind_eq_ok ho
  obtain ⟨html, w, hrender, ho⟩ := Action.bind_eq_ok ho
  obtain ⟨hu, hlog⟩ := note_eq hnote
  obtain ⟨hv, hread⟩ := outside_eq_ok hread
  obtain ⟨hw, hrender⟩ := outside_eq_ok hrender
  obtain ⟨hattributes, hlog'⟩ := Marker.read_eq_ok hread
  have hstash : w.stash = s.stash := hw.trans (hv.trans hu)
  rw [keepHtml_eq ⟨e, html⟩] at ho
  obtain ⟨hnew, rfl⟩ := Prod.mk.inj ho
  refine ⟨⟨e, html⟩, ⟨hattributes, ⟨v.outside, hlog.trans hlog', hrender⟩, ?_⟩, ?_⟩
  · show (w.stash.store _).2.entries = _
    rw [hstash]
    rfl
  · rw [← Except.ok.inj hnew, hstash]

/-- A start marker with its attributes is rendered if the logger takes every message and the
renderer answers. -/
theorem exists_opened_eq_ok (hq : h.NeverRefuses) {marker : Text} {e : Equation}
    (ha : Marker.attributes marker = .ok e) (hr : ∀ w, ∃ html, (h.render e w).1 = .ok html)
    (s : State ω) :
    ∃ a s₁, a.equation = e ∧ Rendered h marker a s s₁ ∧
      opened h marker s = (.ok (Stash.image s.stash.entries.length), s₁) := by
  obtain ⟨u, hnote, -⟩ := exists_note_eq_ok hq "Found an equation...".toList s
  obtain ⟨v, hread⟩ := Marker.exists_read_eq_ok hq ha u
  obtain ⟨html, hhtml⟩ := hr v
  have hrender : h.render e v = (.ok html, (h.render e v).2) := by rw [← hhtml]
  have ho : opened h marker s = (.ok (Stash.image s.stash.entries.length),
      ⟨(s.stash.store (Answer.entry ⟨e, html⟩)).2, (h.render e v).2⟩) := by
    rw [opened, Action.bind_of_ok hnote, image, Action.bind_of_ok (outside_of_eq hread),
      Action.bind_of_ok (outside_of_eq hrender), keepHtml_eq ⟨e, html⟩]
  obtain ⟨a, ha', -⟩ := opened_eq_ok ho
  have he : a.equation = e := Except.ok.inj (ha'.attributes.symm.trans ha)
  exact ⟨a, _, he, ha', ho⟩

/-- A start marker without its end marker is a failure in any case. -/
theorem unclosed_ne_ok {marker : Text} {s s₁ : State ω} {x : Unit} :
    unclosed h marker s ≠ (.ok x, s₁) := fun hu => by
  obtain ⟨_, _, -, hfail⟩ := Action.bind_eq_ok hu
  cases hfail

/-! ### Several start markers -/

theorem Rendered.extends {marker : Text} {a : Answer} {s s₁ : State ω}
    (hr : Rendered h marker a s s₁) : s.stash.Extends s₁.stash := ⟨_, hr.entries.symm⟩

theorem Rendered.of_logged {marker : Text} {a : Answer} {s s' s₁ : State ω}
    (hstash : s'.stash = s.stash) (hlogged : h.Logged s.outside s'.outside)
    (hr : Rendered h marker a s' s₁) : Rendered h marker a s s₁ where
  attributes := hr.attributes
  rendered := by
    obtain ⟨w, hw, hrender⟩ := hr.rendered
    exact ⟨w, hlogged.trans hw, hrender⟩
  entries := by rw [hr.entries, hstash]

theorem Rendered.length_eq {marker : Text} {a : Answer} {s s₁ s₂ : State ω}
    (hr : Rendered h marker a s s₁) (hstash : s₂.stash = s₁.stash) :
    s₂.stash.entries.length = s.stash.entries.length + 1 := by
  rw [hstash, hr.entries, List.length_append, List.length_singleton]

/-- Between the two states the renderer gave the answers, one after the other. -/
inductive Ran (h : Host ω) : State ω → List Answer → State ω → Prop where
  | done {s t : State ω} (hstash : t.stash = s.stash) (hlogged : h.Logged s.outside t.outside) :
    Ran h s [] t
  | step {marker : Text} {a : Answer} {answers : List Answer} {s s₁ t : State ω}
    (hrendered : Rendered h marker a s s₁) (hrest : Ran h s₁ answers t) : Ran h s (a :: answers) t

theorem Ran.refl (s : State ω) : Ran h s [] s := .done rfl (.refl _)

theorem Ran.of_logged {answers : List Answer} {s s' t : State ω} (hstash : s'.stash = s.stash)
    (hlogged : h.Logged s.outside s'.outside) (hr : Ran h s' answers t) : Ran h s answers t := by
  cases hr with
  | done hstash' hlogged' => exact .done (hstash'.trans hstash) (hlogged.trans hlogged')
  | step hrendered hrest => exact .step (hrendered.of_logged hstash hlogged) hrest

theorem Ran.trans {as bs : List Answer} {s t u : State ω} (hst : Ran h s as t)
    (htu : Ran h t bs u) : Ran h s (as ++ bs) u := by
  induction hst with
  | done hstash hlogged => exact htu.of_logged hstash hlogged
  | step hrendered _ ih => exact .step hrendered (ih htu)

/-- Every answer leaves one piece in the stash, in order. -/
theorem Ran.entries {answers : List Answer} {s t : State ω} (hr : Ran h s answers t) :
    t.stash.entries = s.stash.entries ++ answers.map Answer.entry := by
  induction hr with
  | done hstash _ => rw [hstash, List.map_nil, List.append_nil]
  | step hrendered _ ih => rw [ih, hrendered.entries]; simp

theorem Ran.length {answers : List Answer} {s t : State ω} (hr : Ran h s answers t) :
    t.stash.entries.length = s.stash.entries.length + answers.length := by
  rw [hr.entries, List.length_append, List.length_map]

theorem Ran.extends {answers : List Answer} {s t : State ω} (hr : Ran h s answers t) :
    s.stash.Extends t.stash := ⟨_, hr.entries.symm⟩

theorem Ran.getElem? {answers : List Answer} {s t : State ω} (hr : Ran h s answers t) (k : ℕ) :
    t.stash.entries[s.stash.entries.length + k]? = answers[k]?.map Answer.entry := by
  rw [hr.entries, List.getElem?_append_right (by omega), Nat.add_sub_cancel_left, List.getElem?_map]

/-- Every answer is one that the renderer gave in some state of the outside. -/
theorem Ran.answered {answers : List Answer} {s t : State ω} (hr : Ran h s answers t) :
    ∀ a ∈ answers, ∃ w, (h.render a.equation w).1 = .ok a.html := by
  induction hr with
  | done => simp
  | step hrendered _ ih =>
    obtain ⟨w, -, hrender⟩ := hrendered.rendered
    intro b hb
    rcases List.mem_cons.1 hb with rfl | hb
    · exact ⟨w, congrArg Prod.fst hrender⟩
    · exact ih b hb

/-- A traced host has written down the answers as calls. -/
theorem Ran.calls {answers : List Answer} {s t : State (ω × List Call)}
    (hr : Ran h.traced s answers t) : t.outside.2 = s.outside.2 ++ answers.map Answer.call := by
  induction hr with
  | done _ hlogged => rw [Host.calls_of_logged hlogged, List.map_nil, List.append_nil]
  | step hrendered _ ih =>
    obtain ⟨w, hlogged, hrender⟩ := hrendered.rendered
    rw [ih, Host.calls_of_render hrender, Host.calls_of_logged hlogged, List.append_assoc]
    rfl

/-! ### Whole lists -/

/-- A list of siblings that is edited to its end, with the answers of the renderer. -/
inductive Edited (h : Host ω) :
    List Element → State ω → List Edit → List Answer → State ω → Prop where
  | nil (s : State ω) : Edited h [] s [] [] s
  | plain {e : Element} {rest : List Element} {s t : State ω} {edits : List Edit}
      {answers : List Answer} (hplain : startMarker? s.stash e = none)
      (hrest : Edited h rest s edits answers t) :
      Edited h (e :: rest) s (.keep :: edits) answers t
  | insert {e stop : Element} {rest : List Element} {s s₁ s₂ t : State ω} {marker : Text}
      {a : Answer} {edits : List Edit} {answers : List Answer}
      (hstart : startMarker? s.stash e = some marker) (hrendered : Rendered h marker a s s₁)
      (hstop : isEndMarker s₁.stash stop = true) (hstash : s₂.stash = s₁.stash)
      (hlogged : h.Logged s₁.outside s₂.outside) (hrest : Edited h rest s₂ edits answers t) :
      Edited h (e :: stop :: rest) s
        (.keep :: .insert (Stash.image s.stash.entries.length) :: .keep :: edits) (a :: answers) t
  | replace {e old stop : Element} {rest : List Element} {s s₁ s₂ t : State ω} {marker : Text}
      {a : Answer} {edits : List Edit} {answers : List Answer}
      (hstart : startMarker? s.stash e = some marker) (hrendered : Rendered h marker a s s₁)
      (hold : isEndMarker s₁.stash old = false) (hstop : isEndMarker s₁.stash stop = true)
      (hstash : s₂.stash = s₁.stash) (hlogged : h.Logged s₁.outside s₂.outside)
      (hrest : Edited h rest s₂ edits answers t) :
      Edited h (e :: old :: stop :: rest) s
        (.keep :: .replace (Stash.image s.stash.entries.length) :: .keep :: edits) (a :: answers) t

/-- A scan that no failure ends edits the whole list. -/
theorem edited_of_scan (h : Host ω) (es : List Element) (s : State ω)
    (hok : (scan h es s).failure = none) :
    ∃ answers, Edited h es s (scan h es s).made answers (scan h es s).state ∧
      (scan h es s).count = answers.length := by
  fun_induction scan h es s with
  | case1 s => exact ⟨[], .nil s, rfl⟩
  | case2 s e rest hplain p ih =>
    obtain ⟨answers, hedited, hcount⟩ := ih hok
    exact ⟨answers, .plain hplain hedited, hcount⟩
  | case3 | case4 | case6 | case8 | case10 | case12 => cases hok
  | case5 | case9 | case13 => exact absurd ‹unclosed h _ _ = _› unclosed_ne_ok
  | case7 s e marker hstart new s₁ hopened stop rest hstop _ s₂ hnote ih =>
    obtain ⟨answers, hedited, hcount⟩ := ih hok
    obtain ⟨a, hrendered, rfl⟩ := opened_eq_ok hopened
    obtain ⟨hstash, hlogged⟩ := note_eq hnote
    exact ⟨a :: answers, .insert hstart hrendered hstop hstash hlogged hedited,
      congrArg (· + 1) hcount⟩
  | case11 s e marker hstart new s₁ hopened old hold stop rest hstop _ s₂ hnote ih =>
    obtain ⟨answers, hedited, hcount⟩ := ih hok
    obtain ⟨a, hrendered, rfl⟩ := opened_eq_ok hopened
    obtain ⟨hstash, hlogged⟩ := note_eq hnote
    exact ⟨a :: answers,
      .replace hstart hrendered (Bool.eq_false_iff.2 hold) hstop hstash hlogged hedited,
      congrArg (· + 1) hcount⟩

/-- Beside the edits, a list of siblings runs its start markers. -/
theorem Edited.ran {es : List Element} {s t : State ω} {edits : List Edit}
    {answers : List Answer} (he : Edited h es s edits answers t) : Ran h s answers t := by
  induction he with
  | nil s => exact .refl s
  | plain _ _ ih => exact ih
  | insert _ hrendered _ hstash hlogged _ ih | replace _ hrendered _ _ hstash hlogged _ ih =>
    exact .step hrendered (ih.of_logged hstash hlogged)

end Pass

end MathPage
