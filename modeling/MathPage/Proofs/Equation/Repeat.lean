import MathPage.Proofs.Equation.NormalForm

/-!
# A second pass over the same tree

The tree that a pass leaves is in normal form, so that a second pass finds an image between the two
comments of every pair and replaces it: it inserts nothing (`run_run`).

* `Pass.Repeatable` – what is asked of the images of the first pass: none of them stands for an end
  marker, and the renderer answers for their equations once more;
* `scan_of_paired`, `element_of_paired` – the second pass does not fail;
* `Edited.redrawn`, `Worked.redrawn` – all that it changes are the images.
-/

namespace MathPage.Pass

open Stash

variable {ω : Type} {h : Host ω} {s₀ s₁ : Stash} {Q Q' : Equation → Element → Prop}

/-- The images that `Q` tells of, in a stash `s₁` that has grown out of `s₀`, can be rendered once
more. -/
structure Repeatable (h : Host ω) (s₀ s₁ : Stash) (Q : Equation → Element → Prop) : Prop where
  grown : s₀.Extends s₁
  covers : ∀ {eqn x}, Q eqn x → s₁.Covers x
  notEnd : ∀ {eqn x}, Q eqn x → isEndMarker s₁ x = false
  answers : ∀ {eqn x}, Q eqn x → ∀ w, ∃ html, (h.render eqn w).1 = .ok html

/-- An image stands for no end marker, however much the stash has grown. -/
theorem Repeatable.isEndMarker_eq_false (hr : Repeatable h s₀ s₁ Q) {s : Stash}
    (hs : s₁.Extends s) {eqn : Equation} {x : Element} (hx : Q eqn x) :
    isEndMarker s x = false := by
  rw [isEndMarker_eq_of_extends hs (hr.covers hx), hr.notEnd hx]

/-! ### The second pass does not fail -/

/-- A list of siblings in the normal form is scanned to its end. -/
theorem scan_of_paired (hq : h.NeverRefuses) (hr : Repeatable h s₀ s₁ Q) {es : List Element}
    (hp : Paired s₀ Q es) {s : State ω} (hs : s₁.Extends s.stash) :
    (scan h es s).failure = none := by
  induction hp generalizing s with
  | nil => rfl
  | plain hcovers hplain _ ih =>
    have hplain' := (startMarker?_eq_of_extends (hr.grown.trans hs) hcovers).trans hplain
    simp only [scan, hplain']
    exact ih hs
  | @pair e new stop rest marker eqn hcovers hstart hattributes hnew hcovers' hstop _ ih =>
    have hstart' := (startMarker?_eq_of_extends (hr.grown.trans hs) hcovers).trans hstart
    obtain ⟨a, u, -, hrendered, hopened⟩ := exists_opened_eq_ok hq hattributes (hr.answers hnew) s
    have hu : s₁.Extends u.stash := hs.trans hrendered.extends
    have hnew' := hr.isEndMarker_eq_false hu hnew
    have hstop' := (isEndMarker_eq_of_extends (hr.grown.trans hu) hcovers').trans hstop
    obtain ⟨w, hnote, -⟩ := exists_note_eq_ok hq "Replacing existing node...".toList u
    simp only [scan, hstart', hopened, hnew', hstop', hnote, Bool.false_eq_true, if_false, if_true]
    exact ih hu

mutual

/-- A tree in the normal form is worked on to its end. -/
theorem element_of_paired (hq : h.NeverRefuses) (hr : Repeatable h s₀ s₁ Q) :
    ∀ (e : Element) (s : State ω), (∀ x ∈ e.within, Paired s₀ Q x.children) →
      s₁.Extends s.stash → (element h e s).failure = none
  | ⟨tag, attributes, text, literal, es, tail⟩, s, hp, hs => by
    rw [Element.within_eq] at hp
    have hscan := scan_of_paired hq hr (hp _ List.mem_cons_self) hs
    obtain ⟨answers, hedited, -⟩ := edited_of_scan h es s hscan
    simp only [element, hscan]
    exact siblings_of_paired hq hr es _ (fun x hx => hp x (List.mem_cons_of_mem _ hx))
      (hs.trans hedited.ran.extends)

theorem siblings_of_paired (hq : h.NeverRefuses) (hr : Repeatable h s₀ s₁ Q) :
    ∀ (es : List Element) (s : State ω),
      (∀ x ∈ Element.withinAll es, Paired s₀ Q x.children) → s₁.Extends s.stash →
        (siblings h es s).failure = none
  | [], _, _, _ => rfl
  | e :: es, s, hp, hs => by
    rw [Element.withinAll_cons] at hp
    have he := element_of_paired hq hr e s (fun x hx => hp x (List.mem_append_left _ hx)) hs
    obtain ⟨answers, hw, -⟩ := element_worked h e s he
    simp only [siblings, he]
    exact siblings_of_paired hq hr es _ (fun x hx => hp x (List.mem_append_right _ hx))
      (hs.trans hw.ran.extends)

end

/-! ### The second pass changes images only -/

/-- `Q` tells of images of the kind `I`, of which the first stash covers none, and `R` holds between
two images of the same equation. -/
structure Swaps (s₀ : Stash) (I : Element → Prop) (R : Element → Element → Prop)
    (Q Q' : Equation → Element → Prop) : Prop where
  notCovered : ∀ {x}, I x → ¬ s₀.Covers x
  isImage : ∀ {eqn x}, Q eqn x → I x
  related : ∀ {eqn x y}, Q eqn x → Q' eqn y → R x y

variable {I : Element → Prop} {R : Element → Element → Prop}

/-- In a list of siblings in the normal form the edits put one image in the place of another. -/
theorem Edited.redrawn (hr : Repeatable h s₀ s₁ Q) (hswaps : Swaps s₀ I R Q Q') {es : List Element}
    {s t : State ω} {edits : List Edit} {answers : List Answer}
    (he : Edited h es s edits answers t) (hp : Paired s₀ Q es) (hs : s₁.Extends s.stash)
    (hd : Drawn Q' s.stash.entries.length answers) {es' : List Element}
    (hes : List.Forall₂ (fun x x' => s₀.Covers x → Element.Redrawn I R x x') es es') :
    Element.RedrawnAll I R es (Edit.apply edits es') := by
  induction he generalizing es' with
  | nil =>
    cases hes
    exact .nil
  | plain hplain _ ih =>
    obtain ⟨e', rest', hfirst, hrest, rfl⟩ := List.forall₂_cons_left_iff.1 hes
    cases hp with
    | plain hcovers _ hp => exact .cons (hfirst hcovers) (ih hp hs hd hrest)
    | pair hcovers hstart =>
      rw [startMarker?_eq_of_extends (hr.grown.trans hs) hcovers, hstart] at hplain
      cases hplain
  | insert hstart hrendered hstop =>
    cases hp with
    | plain hcovers hplain =>
      rw [startMarker?_eq_of_extends (hr.grown.trans hs) hcovers, hplain] at hstart
      cases hstart
    | pair _ _ _ hnew =>
      rw [hr.isEndMarker_eq_false (hs.trans hrendered.extends) hnew] at hstop
      cases hstop
  | @replace e old stop rest s s₂ s₃ t marker a edits answers hstart hrendered _ hstop hstash _ _
      ih =>
    obtain ⟨e', _, hfirst, htail, rfl⟩ := List.forall₂_cons_left_iff.1 hes
    obtain ⟨old', _, -, htail', rfl⟩ := List.forall₂_cons_left_iff.1 htail
    obtain ⟨stop', rest', hlast, hrest, rfl⟩ := List.forall₂_cons_left_iff.1 htail'
    cases hp with
    | plain hcovers hplain =>
      rw [startMarker?_eq_of_extends (hr.grown.trans hs) hcovers, hplain] at hstart
      cases hstart
    | @pair _ _ _ _ marker' eqn hcovers hstart' hattributes hnew hcovers' _ hp =>
      rw [startMarker?_eq_of_extends (hr.grown.trans hs) hcovers, hstart'] at hstart
      obtain rfl := Option.some.inj hstart
      obtain rfl := Except.ok.inj (hattributes.symm.trans hrendered.attributes)
      have hs₃ : s₁.Extends s₃.stash := hstash ▸ hs.trans hrendered.extends
      have hswap : Element.Redrawn I R old (Stash.image s.stash.entries.length) :=
        .swap (hswaps.isImage hnew) (hswaps.related hnew hd.head)
      exact .cons (hfirst hcovers) (.cons hswap (.cons (hlast hcovers')
        (ih hp hs₃ (hrendered.length_eq hstash ▸ hd.tail) hrest)))

mutual

/-- In a tree in the normal form a pass puts one image in the place of another. -/
theorem Worked.redrawn (hr : Repeatable h s₀ s₁ Q) (hswaps : Swaps s₀ I R Q Q')
    {e made : Element} {s t : State ω} {answers : List Answer} :
    Worked h e s made answers t → (∀ x ∈ e.within, Paired s₀ Q x.children) →
      s₁.Extends s.stash → Drawn Q' s.stash.entries.length answers → s₀.Covers e →
        Element.Redrawn I R e made
  | .mk hedited hbelow, hp, hs, hd, hcovers => by
    rw [Element.within_eq] at hp
    have hrest := hbelow.redrawn hr hswaps (fun x hx => hp x (List.mem_cons_of_mem _ hx))
      (hs.trans hedited.ran.extends) (hedited.ran.length ▸ hd.right)
    exact .keep (fun hi => hswaps.notCovered hi hcovers)
      (hedited.redrawn hr hswaps (hp _ List.mem_cons_self) hs hd.left hrest)

theorem WorkedAll.redrawn (hr : Repeatable h s₀ s₁ Q) (hswaps : Swaps s₀ I R Q Q')
    {es mades : List Element} {s t : State ω} {answers : List Answer} :
    WorkedAll h es s mades answers t → (∀ x ∈ Element.withinAll es, Paired s₀ Q x.children) →
      s₁.Extends s.stash → Drawn Q' s.stash.entries.length answers →
        List.Forall₂ (fun x x' => s₀.Covers x → Element.Redrawn I R x x') es mades
  | .nil _, _, _, _ => .nil
  | .cons hfirst hrest, hp, hs, hd => by
    rw [Element.withinAll_cons] at hp
    refine .cons (fun hcovers => hfirst.redrawn hr hswaps
      (fun x hx => hp x (List.mem_append_left _ hx)) hs hd.left hcovers) ?_
    exact hrest.redrawn hr hswaps (fun x hx => hp x (List.mem_append_right _ hx))
      (hs.trans hfirst.ran.extends) (hfirst.ran.length ▸ hd.right)

end

/-! ### Running twice -/

/-- A run does not fail if the pass over the tree does not. -/
theorem run_of_element (hq : h.NeverRefuses) {root : Element} {s : State ω}
    (hroot : (element h root s).failure = none) : (run h root s).failure = none := by
  have hreport : ∃ w, report h (element h root s).count (element h root s).state = (.ok (), w) := by
    unfold report
    split
    · exact ⟨_, rfl⟩
    · obtain ⟨w, hnote, -⟩ := exists_note_eq_ok hq _ _
      exact ⟨_, hnote⟩
  obtain ⟨w, hreport⟩ := hreport
  simp only [run, hroot, hreport]

/-- The images of a run can be rendered once more if none of them is an end marker and the renderer
answers for the equations of the run. -/
theorem Ran.repeatable {answers : List Answer} {s t : State ω} (hr : Ran h s answers t)
    (hend : ∀ e w html, (h.render e w).1 = .ok (some html) → Marker.isEnd html = false)
    (hagain : ∀ e w html, (h.render e w).1 = .ok html → ∀ v, ∃ html, (h.render e v).1 = .ok html) :
    Repeatable h s.stash t.stash (Shows s.stash.entries.length answers) where
  grown := hr.extends
  covers := fun hx => by
    obtain ⟨n, -, hn, rfl⟩ := hr.isImage hx
    exact covers_image hn
  notEnd := fun {eqn x} hx => by
    obtain ⟨w, hw⟩ := hr.value? hx
    unfold isEndMarker
    cases hv : t.stash.value? x with
    | none => rfl
    | some html => exact hend eqn w html (hv ▸ hw)
  answers := fun {eqn x} hx => by
    obtain ⟨w, hw⟩ := hr.value? hx
    exact hagain eqn w _ hw

/-- The second of two runs puts new images in the place of those of the first, each for the same
equation. -/
theorem run_again (hq : h.NeverRefuses)
    (hend : ∀ e w html, (h.render e w).1 = .ok (some html) → Marker.isEnd html = false)
    (hagain : ∀ e w html, (h.render e w).1 = .ok html → ∀ v, ∃ html, (h.render e v).1 = .ok html)
    {root : Element} {s : State ω} (hcovers : ∀ x ∈ root.within, s.stash.Covers x)
    (hok : (run h root s).failure = none) {p q : Progress ω Element} (hp : run h root s = p)
    (hp' : run h p.made p.state = q) :
    q.failure = none ∧
      ((places q.made.within).filter (p.state.stash.entries.length ≤ ·)).Nodup ∧
      Element.Redrawn (IsImage s.stash p.state.stash)
        (fun a b => IsImage p.state.stash q.state.stash b ∧
          ∃ eqn w v, (h.render eqn w).1 = .ok (p.state.stash.value? a) ∧
            (h.render eqn v).1 = .ok (q.state.stash.value? b)) p.made q.made := by
  subst hp hp'
  obtain ⟨answers, t, hw, hstash, -⟩ := run_worked h root s hok
  rw [hstash]
  have hpaired := hw.paired (Stash.Extends.refl _) hcovers (drawn_shows _ answers)
  have hr := hw.ran.repeatable hend hagain
  have hs : t.stash.Extends (run h root s).state.stash := hstash ▸ Stash.Extends.refl _
  have hok' := run_of_element hq (element_of_paired hq hr _ (run h root s).state hpaired hs)
  obtain ⟨answers', u, hw', hstash', -⟩ := run_worked h _ _ hok'
  rw [hstash']
  have hcovers' : ∀ x ∈ (run h root s).made.within, (run h root s).state.stash.Covers x := by
    rw [hstash]
    exact hw.covers hcovers
  refine ⟨hok', hstash ▸ hw'.nodup_places hcovers', ?_⟩
  have hswaps : Swaps s.stash (IsImage s.stash t.stash)
      (fun a b => IsImage t.stash u.stash b ∧
        ∃ eqn w v, (h.render eqn w).1 = .ok (t.stash.value? a) ∧
          (h.render eqn v).1 = .ok (u.stash.value? b))
      (Shows s.stash.entries.length answers)
      (Shows (run h root s).state.stash.entries.length answers') :=
    { notCovered := not_covers_of_isImage
      isImage := hw.ran.isImage
      related := fun {eqn x y} hx hy => by
        obtain ⟨w, hw₁⟩ := hw.ran.value? hx
        obtain ⟨v, hv⟩ := hw'.ran.value? hy
        exact ⟨hstash ▸ hw'.ran.isImage hy, eqn, w, v, hw₁, hv⟩ }
  have hroot : s.stash.Covers (run h root s).made :=
    covers_congr hw.place? (hcovers root root.self_mem_within)
  exact hw'.redrawn hr hswaps hpaired hs (drawn_shows _ _) hroot

/-- **A second run inserts nothing.** If the first run succeeds, a second one on the tree and the
stash that it left succeeds too and changes nothing but the images of the first run. If the renderer
answers by the equation alone, every image stands for the same HTML as before; if it only answers at
all, every image gives way to one new image. -/
theorem run_run (h : Host ω) (root : Element) (s : State ω) (hq : h.NeverRefuses)
    (hend : ∀ e w html, (h.render e w).1 = .ok (some html) → Marker.isEnd html = false)
    (hcovers : ∀ x ∈ root.within, s.stash.Covers x) (hok : (run h root s).failure = none)
    {p q : Progress ω Element} (hp : run h root s = p) (hp' : run h p.made p.state = q) :
    (h.IsPure → q.failure = none ∧
      Element.Redrawn (IsImage s.stash p.state.stash)
        (fun a b => IsImage p.state.stash q.state.stash b ∧
          q.state.stash.value? b = p.state.stash.value? a) p.made q.made) ∧
    (h.Answers → q.failure = none ∧
      ((places q.made.within).filter (p.state.stash.entries.length ≤ ·)).Nodup ∧
      Element.Redrawn (IsImage s.stash p.state.stash)
        (fun _ b => IsImage p.state.stash q.state.stash b) p.made q.made) := by
  constructor
  · rintro ⟨f, hf⟩
    have hagain : ∀ e w html, (h.render e w).1 = .ok html →
        ∀ v, ∃ html, (h.render e v).1 = .ok html := fun e w html he v =>
      ⟨html, by rw [hf e v, ← hf e w, he]⟩
    obtain ⟨hok', -, hredrawn⟩ := run_again hq hend hagain hcovers hok hp hp'
    refine ⟨hok', hredrawn.mono fun a b hab => ?_⟩
    obtain ⟨hb, eqn, w, v, ha, hb'⟩ := hab
    have hsame : (h.render eqn v).1 = (h.render eqn w).1 := by rw [hf, hf]
    rw [ha, hb'] at hsame
    exact ⟨hb, Except.ok.inj hsame⟩
  · intro hanswers
    obtain ⟨hok', hnodup, hredrawn⟩ :=
      run_again hq hend (fun e _ _ _ v => hanswers e v) hcovers hok hp hp'
    exact ⟨hok', hnodup, hredrawn.mono fun a b hab => hab.1⟩

/-- A host that answers every equation with its own LaTeX in a paragraph. -/
def quoter : Host Unit where
  render eqn := Action.result (some ("<p>".toList ++ eqn.raw ++ "</p>".toList))
  log _ _ := Action.result ()

theorem isEnd_quoter (e : Equation) (w : Unit) (html : Text)
    (hr : (quoter.render e w).1 = .ok (some html)) : Marker.isEnd html = false := by
  obtain rfl := Option.some.inj (Except.ok.inj hr)
  have hsplit : "<p>".toList ++ e.raw ++ "</p>".toList =
      '<' :: ("p>".toList ++ e.raw ++ "</p".toList) ++ ['>'] := by simp
  rw [Marker.isEnd, hsplit, Text.strip_eq_self (by decide) (by decide)]
  rfl

theorem run_run_sample :
    quoter.NeverRefuses ∧ quoter.IsPure ∧ quoter.Answers ∧
      (∀ e w html, (quoter.render e w).1 = .ok (some html) → Marker.isEnd html = false) ∧
      (∀ x ∈ sample.within, sampleStash.Covers x) ∧
      ∃ p q, run quoter sample ⟨sampleStash, ()⟩ = p ∧ p.failure = none ∧
        run quoter p.made p.state = q ∧ q.failure = none ∧
        ((places q.made.within).filter (p.state.stash.entries.length ≤ ·)).Nodup ∧
        Element.Redrawn (IsImage sampleStash p.state.stash)
          (fun a b => IsImage p.state.stash q.state.stash b ∧
            q.state.stash.value? b = p.state.stash.value? a) p.made q.made := by
  have hq : quoter.NeverRefuses := fun _ _ _ => rfl
  have hpure : quoter.IsPure := ⟨fun e => (quoter.render e ()).1, fun _ _ => rfl⟩
  have hanswers : quoter.Answers := fun _ _ => ⟨_, rfl⟩
  have hcovers : ∀ x ∈ sample.within, sampleStash.Covers x := by decide
  have hok : (run quoter sample ⟨sampleStash, ()⟩).failure = none := by decide +kernel
  obtain ⟨hsame, hnew⟩ :=
    run_run quoter sample ⟨sampleStash, ()⟩ hq isEnd_quoter hcovers hok rfl rfl
  obtain ⟨hok', hredrawn⟩ := hsame hpure
  obtain ⟨-, hnodup, -⟩ := hnew hanswers
  exact ⟨hq, hpure, hanswers, isEnd_quoter, hcovers, _, _, rfl, hok, rfl, hok', hnodup, hredrawn⟩

end MathPage.Pass
