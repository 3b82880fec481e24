import MathPage.Equation.Pass
import MathPage.Proofs.Equation.Host

/-!
# What a pass tells the outside

* `Host.Told`, `Host.Tells` – calls of the renderer and debug messages of one kind, and an action
  that does nothing else to the outside;
* `Pass.Message` – the messages of a pass: those of its markers, its edits and its closing report;
* `Pass.Respects` – a relation between the states in front of a pass and behind it that each message
  and each image respects;
* `Pass.run_told` – a pass calls the renderer and sends these messages, whether it fails or not.

How often the outside is told something depends on the document. What it is told does not, so that a
single relation is carried through the tree (`Respects.run`).
-/

namespace MathPage

namespace Host

variable {ω σ α β : Type} {h : Host ω} {P Q : Text → Prop} {get : σ → ω}

/-- The second state of the outside comes from the first by calls of the renderer and by debug
messages of the given kind. -/
inductive Told (h : Host ω) (P : Text → Prop) : ω → ω → Prop where
  | refl (w : ω) : Told h P w w
  | asked {w v : ω} (e : Equation) (hv : Told h P w v) : Told h P w (h.render e v).2
  | said {w v : ω} {t : Text} (ht : P t) (hv : Told h P w v) : Told h P w (h.log .debug t v).2

theorem Told.trans {u v w : ω} (huv : h.Told P u v) (hvw : h.Told P v w) : h.Told P u w := by
  induction hvw with
  | refl => exact huv
  | asked e _ ih => exact .asked e ih
  | said ht _ ih => exact .said ht ih

theorem Told.mono {v w : ω} (hPQ : ∀ t, P t → Q t) (hv : h.Told P v w) : h.Told Q v w := by
  induction hv with
  | refl => exact .refl _
  | asked e _ ih => exact .asked e ih
  | said ht _ ih => exact .said (hPQ _ ht) ih

/-- An action on a state that the outside is a part of tells it nothing else. -/
def Tells (h : Host ω) (P : Text → Prop) (get : σ → ω) (a : Action σ α) : Prop :=
  ∀ s, h.Told P (get s) (get (a s).2)

theorem tells_ofExcept (e : Except Failure α) : h.Tells P get (Action.ofExcept e) :=
  fun _ => .refl _

theorem tells_pure (x : α) : h.Tells P get (pure x) := tells_ofExcept (.ok x)

theorem tells_log {t : Text} (ht : P t) : h.Tells P id (h.log .debug t) :=
  fun w => .said ht (.refl w)

theorem tells_render (e : Equation) : h.Tells P id (h.render e) := fun w => .asked e (.refl w)

theorem Tells.bind {a : Action σ α} {k : α → Action σ β} (ha : h.Tells P get a)
    (hk : ∀ x, h.Tells P get (k x)) : h.Tells P get (a >>= k) := by
  intro s
  have hfirst := ha s
  rcases has : a s with ⟨f | x, s₁⟩ <;> rw [has] at hfirst
  · rw [Action.bind_of_error has]
    exact hfirst
  · rw [Action.bind_of_ok has]
    exact hfirst.trans (hk x s₁)

end Host

namespace Pass

variable {ω α : Type} {h : Host ω}

/-- The messages of a pass. -/
inductive Message : Text → Prop where
  | found : Message "Found an equation...".toList
  | inserting : Message "Inserting new node...".toList
  | replacing : Message "Replacing existing node...".toList
  | invalid (marker : Text) : Message ("Invalid node: ".toList ++ marker)
  | label (t : Text) : Message ("Label: ".toList ++ t)
  | alt (t : Text) : Message ("Alternate text: ".toList ++ t)
  | raw (t : Text) : Message ("Raw equation: ".toList ++ t)
  | rendered (n : ℕ) : Message ("Rendered ".toList ++ Text.decimal n ++ " equation(s).".toList)

/-! ### Markers -/

theorem read_tells (h : Host ω) (marker : Text) :
    h.Tells Message id (Marker.read h marker) := by
  unfold Marker.read
  cases Marker.attributes marker with
  | error f => exact (Host.tells_log (.invalid _)).bind fun _ => Host.tells_ofExcept (.error f)
  | ok e =>
    exact (Host.tells_log (.label _)).bind fun _ => (Host.tells_log (.alt _)).bind fun _ =>
      (Host.tells_log (.raw _)).bind fun _ => Host.tells_pure e

theorem outside_tells {P : Text → Prop} {a : Action ω α} (ha : h.Tells P id a) :
    h.Tells P State.outside (outside a) := fun s => ha s.outside

theorem note_tells {t : Text} (ht : Message t) : h.Tells Message State.outside (note h t) :=
  outside_tells (Host.tells_log ht)

theorem image_tells (h : Host ω) (marker : Text) :
    h.Tells Message State.outside (image h marker) := by
  refine (outside_tells (read_tells h marker)).bind fun e => ?_
  refine (outside_tells (Host.tells_render e)).bind fun html s => ?_
  -- the stash is no part of the outside
  exact .refl s.outside

/-! ### Passes -/

/-- A relation between states that the messages and the images of a pass respect. -/
structure Respects (h : Host ω) (R : State ω → State ω → Prop) : Prop where
  refl (s : State ω) : R s s
  trans {s t u : State ω} (hst : R s t) (htu : R t u) : R s u
  note {t : Text} (ht : Message t) (s : State ω) : R s (note h t s).2
  image (marker : Text) (s : State ω) : R s (image h marker s).2

namespace Respects

variable {R : State ω → State ω → Prop}

theorem of_eq {a : Action (State ω) α} (ha : ∀ s, R s (a s).2) {s s₁ : State ω}
    {r : Except Failure α} (hs : a s = (r, s₁)) : R s s₁ := by
  have hfirst := ha s
  rwa [hs] at hfirst

theorem note_eq (hR : Respects h R) {t : Text} (ht : Message t) {s s₁ : State ω}
    {r : Except Failure Unit} (hn : Pass.note h t s = (r, s₁)) : R s s₁ := of_eq (hR.note ht) hn

theorem opened_eq (hR : Respects h R) {marker : Text} {s s₁ : State ω}
    {r : Except Failure Element} (ho : opened h marker s = (r, s₁)) : R s s₁ := by
  rw [opened] at ho
  rcases hn : Pass.note h "Found an equation...".toList s with ⟨f | _, s₂⟩
  · rw [Action.bind_of_error hn] at ho
    exact (Prod.mk.inj ho).2 ▸ hR.note_eq .found hn
  · rw [Action.bind_of_ok hn] at ho
    exact hR.trans (hR.note_eq .found hn) (of_eq (hR.image marker) ho)

theorem unclosed_eq (hR : Respects h R) {marker : Text} {s s₁ : State ω}
    {r : Except Failure Unit} (hu : unclosed h marker s = (r, s₁)) : R s s₁ := by
  rw [unclosed] at hu
  rcases hn : Pass.note h ("Invalid node: ".toList ++ marker) s with ⟨f | _, s₂⟩
  · rw [Action.bind_of_error hn] at hu
    exact (Prod.mk.inj hu).2 ▸ hR.note_eq (.invalid marker) hn
  · rw [Action.bind_of_ok hn] at hu
    exact (Prod.mk.inj hu).2 ▸ hR.note_eq (.invalid marker) hn

theorem report_eq (hR : Respects h R) {n : ℕ} {s s₁ : State ω} {r : Except Failure Unit}
    (hr : report h n s = (r, s₁)) : R s s₁ := by
  unfold report at hr
  split at hr
  · exact (Prod.mk.inj hr).2 ▸ hR.refl s
  · exact hR.note_eq (.rendered n) hr

/-- One list of siblings. -/
theorem scan (hR : Respects h R) (es : List Element) (s : State ω) :
    R s (Pass.scan h es s).state := by
  fun_induction Pass.scan h es s with
  | case1 s => exact hR.refl s
  | case2 s e rest hplain p ih => exact ih
  | case3 s e rest marker hstart f s₁ hopened => exact hR.opened_eq hopened
  | case4 s e marker hstart new s₁ hopened f s₂ hunclosed
  | case5 s e marker hstart new s₁ hopened _ s₂ hunclosed
  | case8 s e marker hstart new s₁ hopened next hnext f s₂ hunclosed
  | case9 s e marker hstart new s₁ hopened next hnext _ s₂ hunclosed
  | case12 s e marker hstart new s₁ hopened next hnext third rest hthird f s₂ hunclosed
  | case13 s e marker hstart new s₁ hopened next hnext third rest hthird _ s₂ hunclosed =>
    exact hR.trans (hR.opened_eq hopened) (hR.unclosed_eq hunclosed)
  | case6 s e marker hstart new s₁ hopened next rest hnext f s₂ hnote =>
    exact hR.trans (hR.opened_eq hopened) (hR.note_eq .inserting hnote)
  | case7 s e marker hstart new s₁ hopened next rest hnext _ s₂ hnote ih =>
    exact hR.trans (hR.opened_eq hopened) (hR.trans (hR.note_eq .inserting hnote) ih)
  | case10 s e marker hstart new s₁ hopened next hnext third rest hthird f s₂ hnote =>
    exact hR.trans (hR.opened_eq hopened) (hR.note_eq .replacing hnote)
  | case11 s e marker hstart new s₁ hopened next hnext third rest hthird _ s₂ hnote ih =>
    exact hR.trans (hR.opened_eq hopened) (hR.trans (hR.note_eq .replacing hnote) ih)

mutual

/-- An element and all that is below it. -/
theorem element (hR : Respects h R) : ∀ (e : Element) (s : State ω),
    R s (Pass.element h e s).state
  | ⟨tag, attributes, text, literal, es, tail⟩, s => by
    have hscan := hR.scan es s
    simp only [Pass.element]
    cases hfailure : (Pass.scan h es s).failure with
    | some f => exact hscan
    | none => exact hR.trans hscan (hR.siblings es _)

/-- What is below each of several elements. -/
theorem siblings (hR : Respects h R) : ∀ (es : List Element) (s : State ω),
    R s (Pass.siblings h es s).state
  | [], s => hR.refl s
  | e :: es, s => by
    have hfirst := hR.element e s
    simp only [Pass.siblings]
    cases hfailure : (Pass.element h e s).failure with
    | some f => exact hfirst
    | none => exact hR.trans hfirst (hR.siblings es _)

end

/-- **What messages and images respect, a pass respects,** whether it fails or not. -/
theorem run (hR : Respects h R) (root : Element) (s : State ω) : R s (Pass.run h root s).state := by
  have hroot := hR.element root s
  simp only [Pass.run]
  cases hfailure : (Pass.element h root s).failure with
  | some f => exact hroot
  | none =>
    rcases hreport : report h (Pass.element h root s).count (Pass.element h root s).state with
      ⟨_ | _, s'⟩ <;> exact hR.trans hroot (hR.report_eq hreport)

end Respects

theorem told_respects (h : Host ω) :
    Respects h fun s t => h.Told Message s.outside t.outside where
  refl s := .refl s.outside
  trans := .trans
  note ht := note_tells ht
  image := image_tells h

/-- **A pass calls the renderer and sends its messages, and does nothing else to the outside.** -/
theorem run_told (h : Host ω) (root : Element) (s : State ω) :
    h.Told Message s.outside (run h root s).state.outside := (told_respects h).run root s

end Pass

end MathPage
