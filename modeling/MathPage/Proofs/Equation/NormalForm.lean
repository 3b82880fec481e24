import MathPage.Proofs.Equation.Record
import MathPage.Proofs.Equation.Tree

/-!
# The normal form of a tree of equations

* `Pass.Paired` – a list of siblings in which every start marker has its image and its end marker
  behind it;
* `Pass.Drawn` – what the images of several answers are to the equations of these answers.

A pass that no failure ends leaves every list of siblings in the normal form (`Worked.paired`).
Markers are judged in the stash that the pass found. It covers all elements of the tree, so that the
images that the pass adds change none of them.
-/

namespace MathPage

open Stash

namespace Pass

variable {ω : Type} {h : Host ω} {Q : Equation → Element → Prop}

/-! ### Images and equations -/

/-- The images from a position on are to the equations of the answers, one by one, what `Q` says. -/
def Drawn (Q : Equation → Element → Prop) (n : ℕ) (answers : List Answer) : Prop :=
  ∀ k a, answers[k]? = some a → Q a.equation (Stash.image (n + k))

theorem Drawn.head {n : ℕ} {a : Answer} {answers : List Answer} (hd : Drawn Q n (a :: answers)) :
    Q a.equation (Stash.image n) := hd 0 a rfl

theorem Drawn.tail {n : ℕ} {a : Answer} {answers : List Answer} (hd : Drawn Q n (a :: answers)) :
    Drawn Q (n + 1) answers := fun k b hb => by
  rw [Nat.add_right_comm, Nat.add_assoc]
  exact hd (k + 1) b hb

theorem Drawn.left {n : ℕ} {as bs : List Answer} (hd : Drawn Q n (as ++ bs)) : Drawn Q n as :=
  fun k a ha => hd k a (by
    rw [List.getElem?_append_left (List.getElem?_eq_some_iff.1 ha).1, ha])

theorem Drawn.right {n : ℕ} {as bs : List Answer} (hd : Drawn Q n (as ++ bs)) :
    Drawn Q (n + as.length) bs := fun k b hb => by
  rw [Nat.add_assoc]
  refine hd (as.length + k) b ?_
  rw [List.getElem?_append_right (Nat.le_add_right _ _), Nat.add_sub_cancel_left, hb]

/-! ### Lists of siblings -/

/-- A list of siblings in which every start marker has behind it an image that belongs to its
equation, and then an end marker. -/
inductive Paired (s : Stash) (Q : Equation → Element → Prop) : List Element → Prop where
  | nil : Paired s Q []
  | plain {e : Element} {rest : List Element} (hcovers : s.Covers e)
      (hplain : startMarker? s e = none) (hrest : Paired s Q rest) : Paired s Q (e :: rest)
  | pair {e new stop : Element} {rest : List Element} {marker : Text} {eqn : Equation}
      (hcovers : s.Covers e) (hstart : startMarker? s e = some marker)
      (hattributes : Marker.attributes marker = .ok eqn) (hnew : Q eqn new)
      (hcovers' : s.Covers stop) (hstop : isEndMarker s stop = true) (hrest : Paired s Q rest) :
      Paired s Q (e :: new :: stop :: rest)

theorem covers_congr {s : Stash} {e e' : Element} (hp : place? e' = place? e) (hc : s.Covers e) :
    s.Covers e' := fun n hn => hc n (hp ▸ hn)

theorem value?_congr {s t : Stash} {e e' : Element} (hst : s.Extends t) (hc : s.Covers e)
    (hp : place? e' = place? e) : s.value? e' = t.value? e := by
  rw [value?_of_extends hst hc, value?_eq, value?_eq, hp]

/-- A pair that was rendered is in the normal form, also when its two comments have been changed
below. -/
theorem Rendered.paired {marker : Text} {a : Answer} {s s₁ : State ω}
    (hrendered : Rendered h marker a s s₁) {s₀ : Stash} (hs : s₀.Extends s.stash)
    {e e' stop stop' : Element} (hstart : startMarker? s.stash e = some marker)
    (hstop : isEndMarker s₁.stash stop = true) (hc : s₀.Covers e) (hc' : s₀.Covers stop)
    (hp : place? e' = place? e) (hp' : place? stop' = place? stop)
    {new : Element} (hnew : Q a.equation new)
    {rest : List Element} (hrest : Paired s₀ Q rest) :
    Paired s₀ Q (e' :: new :: stop' :: rest) := by
  have hs₁ : s₀.Extends s₁.stash := hs.trans hrendered.extends
  have hstart' : startMarker? s₀ e' = some marker := by
    rw [startMarker?_congr (value?_congr hs hc hp), hstart]
  have hstop' : isEndMarker s₀ stop' = true := by
    rw [isEndMarker_congr (value?_congr hs₁ hc' hp'), hstop]
  exact .pair (covers_congr hp hc) hstart' hrendered.attributes hnew (covers_congr hp' hc') hstop'
    hrest

/-- An edited list is in the normal form, also when its elements have been changed below. -/
theorem Edited.paired {es : List Element} {s t : State ω} {edits : List Edit}
    {answers : List Answer} (he : Edited h es s edits answers t) {s₀ : Stash}
    (hs : s₀.Extends s.stash) (hcovers : ∀ e ∈ es, s₀.Covers e) {es' : List Element}
    (hes : SamePlaces es es') (hQ : Drawn Q s.stash.entries.length answers) :
    Paired s₀ Q (Edit.apply edits es') := by
  induction he generalizing es' with
  | nil =>
    cases hes
    exact .nil
  | @plain e rest s t edits answers hplain _ ih =>
    obtain ⟨e', rest', hp, hrest, rfl⟩ := List.forall₂_cons_left_iff.1 hes
    have hc := hcovers e (by simp)
    refine .plain (covers_congr hp hc) ?_ (ih hs (fun x hx => hcovers x (by simp [hx])) hrest hQ)
    rw [startMarker?_congr (value?_congr hs hc hp), hplain]
  | @insert e stop rest s s₁ s₂ t marker a edits answers hstart hrendered hstop hstash _ _ ih =>
    obtain ⟨e', _, hp, htail, rfl⟩ := List.forall₂_cons_left_iff.1 hes
    obtain ⟨stop', rest', hp', hrest, rfl⟩ := List.forall₂_cons_left_iff.1 htail
    have hs₂ : s₀.Extends s₂.stash := hstash ▸ hs.trans hrendered.extends
    have hrest' : Paired s₀ Q (Edit.apply edits rest') :=
      ih hs₂ (fun x hx => hcovers x (by simp [hx])) hrest (hrendered.length_eq hstash ▸ hQ.tail)
    exact hrendered.paired hs hstart hstop (hcovers e (by simp)) (hcovers stop (by simp)) hp hp'
      hQ.head hrest'
  | @replace e old stop rest s s₁ s₂ t marker a edits answers hstart hrendered _ hstop hstash _ _
      ih =>
    obtain ⟨e', _, hp, htail, rfl⟩ := List.forall₂_cons_left_iff.1 hes
    obtain ⟨old', _, -, htail', rfl⟩ := List.forall₂_cons_left_iff.1 htail
    obtain ⟨stop', rest', hp', hrest, rfl⟩ := List.forall₂_cons_left_iff.1 htail'
    have hs₂ : s₀.Extends s₂.stash := hstash ▸ hs.trans hrendered.extends
    have hrest' : Paired s₀ Q (Edit.apply edits rest') :=
      ih hs₂ (fun x hx => hcovers x (by simp [hx])) hrest (hrendered.length_eq hstash ▸ hQ.tail)
    exact hrendered.paired hs hstart hstop (hcovers e (by simp)) (hcovers stop (by simp)) hp hp'
      hQ.head hrest'

theorem Paired.covers_or {s : Stash} {es : List Element} (hp : Paired s Q es) {x : Element}
    (hx : x ∈ es) : s.Covers x ∨ ∃ eqn, Q eqn x := by
  induction hp with
  | nil => cases hx
  | plain hcovers _ _ ih =>
    rcases List.mem_cons.1 hx with rfl | hx
    · exact Or.inl hcovers
    · exact ih hx
  | @pair e new stop rest marker eqn hcovers _ _ hnew hcovers' _ _ ih =>
    rcases List.mem_cons.1 hx with rfl | hx
    · exact Or.inl hcovers
    rcases List.mem_cons.1 hx with rfl | hx
    · exact Or.inr ⟨eqn, hnew⟩
    rcases List.mem_cons.1 hx with rfl | hx
    · exact Or.inl hcovers'
    · exact ih hx

/-- Behind a start marker that the stash covers stand its image and an end marker. -/
theorem Paired.behind {s : Stash} (hQ : ∀ eqn x, Q eqn x → ¬ s.Covers x) {es : List Element}
    (hp : Paired s Q es) {i : ℕ} {e : Element} {marker : Text} (he : es[i]? = some e)
    (hcovers : s.Covers e) (hstart : startMarker? s e = some marker) :
    ∃ eqn new stop, es[i + 1]? = some new ∧ es[i + 2]? = some stop ∧ Q eqn new ∧
      Marker.attributes marker = .ok eqn ∧ s.Covers stop ∧ isEndMarker s stop = true := by
  induction hp generalizing i with
  | nil => cases he
  | plain _ hplain _ ih =>
    cases i with
    | zero =>
      obtain rfl := Option.some.inj he
      rw [hplain] at hstart
      cases hstart
    | succ i => exact ih he
  | @pair e' new stop rest marker' eqn _ hstart' hattributes hnew hcovers' hstop _ ih =>
    match i with
    | 0 =>
      obtain rfl := Option.some.inj he
      obtain rfl := Option.some.inj (hstart'.symm.trans hstart)
      exact ⟨eqn, new, stop, rfl, rfl, hnew, hattributes, hcovers', hstop⟩
    | 1 =>
      obtain rfl := Option.some.inj he
      exact absurd hcovers (hQ eqn new hnew)
    | 2 =>
      obtain rfl := Option.some.inj he
      rw [startMarker?_of_isEndMarker hstop] at hstart
      cases hstart
    | i + 3 => exact ih he

/-! ### Whole trees -/

mutual

/-- **A tree that is worked on to its end is in the normal form.** -/
theorem Worked.paired {s₀ : Stash} {Q : Equation → Element → Prop} {e made : Element}
    {s t : State ω} {answers : List Answer} :
    Worked h e s made answers t → s₀.Extends s.stash → (∀ x ∈ e.within, s₀.Covers x) →
      Drawn Q s.stash.entries.length answers → ∀ x ∈ made.within, Paired s₀ Q x.children
  | .mk hedited hbelow, hs, hcovers, hQ, x, hx => by
    rw [Element.within_eq] at hcovers hx
    have hcovers' := fun y hy => hcovers y (List.mem_cons_of_mem _ hy)
    rcases List.mem_cons.1 hx with rfl | hx
    · exact hedited.paired hs (fun y hy => hcovers' y (Element.mem_withinAll_of_mem hy))
        hbelow.samePlaces hQ.left
    · obtain ⟨y, hy, hxy⟩ := Element.mem_withinAll.1 hx
      rcases Edit.mem_apply hy with hy | hy
      · obtain ⟨n, rfl⟩ := hedited.exists_eq_image hy
        obtain rfl : x = Stash.image n := List.mem_singleton.1 hxy
        exact .nil
      · exact hbelow.paired (hs.trans hedited.ran.extends) hcovers' (hedited.ran.length ▸ hQ.right)
          x (Element.mem_withinAll.2 ⟨y, hy, hxy⟩)

theorem WorkedAll.paired {s₀ : Stash} {Q : Equation → Element → Prop} {es mades : List Element}
    {s t : State ω} {answers : List Answer} :
    WorkedAll h es s mades answers t → s₀.Extends s.stash →
      (∀ x ∈ Element.withinAll es, s₀.Covers x) → Drawn Q s.stash.entries.length answers →
        ∀ x ∈ Element.withinAll mades, Paired s₀ Q x.children
  | .nil s, _, _, _, x, hx => absurd hx List.not_mem_nil
  | .cons hfirst hrest, hs, hcovers, hQ, x, hx => by
    rw [Element.withinAll_cons] at hcovers hx
    rcases List.mem_append.1 hx with hx | hx
    · exact hfirst.paired hs (fun y hy => hcovers y (List.mem_append_left _ hy)) hQ.left x hx
    · exact hrest.paired (hs.trans hfirst.ran.extends)
        (fun y hy => hcovers y (List.mem_append_right _ hy)) (hfirst.ran.length ▸ hQ.right) x hx

end

/-! ### The normal form of a run -/

/-- An image that was made after the first of two stashes and before the second. -/
def IsImage (s t : Stash) (e : Element) : Prop :=
  ∃ n, s.entries.length ≤ n ∧ n < t.entries.length ∧ e = Stash.image n

theorem not_covers_of_isImage {s t : Stash} {e : Element} (hi : IsImage s t e) : ¬ s.Covers e := by
  obtain ⟨n, hn, -, rfl⟩ := hi
  exact fun hc => absurd (hc n (place?_image n)) (Nat.not_lt.2 hn)

/-- An image that one of the answers left, with the equation of this answer; the first answer left
the image at position `n`. -/
def Shows (n : ℕ) (answers : List Answer) (eqn : Equation) (x : Element) : Prop :=
  ∃ k a, answers[k]? = some a ∧ a.equation = eqn ∧ x = Stash.image (n + k)

theorem drawn_shows (n : ℕ) (answers : List Answer) : Drawn (Shows n answers) n answers :=
  fun k a ha => ⟨k, a, ha, rfl, rfl⟩

theorem Ran.isImage {answers : List Answer} {s t : State ω} (hr : Ran h s answers t)
    {eqn : Equation} {x : Element} (hx : Shows s.stash.entries.length answers eqn x) :
    IsImage s.stash t.stash x := by
  obtain ⟨k, a, ha, -, rfl⟩ := hx
  refine ⟨_, Nat.le_add_right _ _, ?_, rfl⟩
  rw [hr.length]
  exact Nat.add_lt_add_left (List.getElem?_eq_some_iff.1 ha).1 _

/-- What an image stands for is what the renderer gave for its equation. -/
theorem Ran.value? {answers : List Answer} {s t : State ω} (hr : Ran h s answers t)
    {eqn : Equation} {x : Element} (hx : Shows s.stash.entries.length answers eqn x) :
    ∃ w, (h.render eqn w).1 = .ok (t.stash.value? x) := by
  obtain ⟨k, a, ha, rfl, rfl⟩ := hx
  obtain ⟨w, hw⟩ := hr.answered a (List.mem_of_getElem? ha)
  refine ⟨w, ?_⟩
  rw [value?_image, hr.getElem?, ha, hw]
  obtain ⟨eqn, _ | html⟩ := a <;> rfl

/-- The tree that a pass left, in normal form: `s` and `t` are the stashes before and after the
pass, and `calls` the calls that it made. -/
structure NormalForm (s t : Stash) (calls : List Call) (made : Element) : Prop where
  /-- The calls left a piece each, in order. -/
  entries : ∃ answers : List Answer,
    calls = answers.map Answer.call ∧ t.entries = s.entries ++ answers.map Answer.entry
  /-- Behind every start marker that is no image itself stand the image of its equation and an end
  marker. -/
  behind : ∀ x ∈ made.within, ∀ i e marker, x.children[i]? = some e →
    startMarker? t e = some marker → ¬ IsImage s t e →
    ∃ (k : ℕ) (a : Answer) (stop : Element),
      x.children[i + 1]? = some (Stash.image (s.entries.length + k)) ∧
      x.children[i + 2]? = some stop ∧ isEndMarker t stop = true ∧
      Marker.attributes marker = .ok a.equation ∧ calls[k]? = some a.call ∧
      t.entries[s.entries.length + k]? = some a.entry
  /-- No image stands at two places. -/
  nodup : ((places made.within).filter (s.entries.length ≤ ·)).Nodup

/-- A tree that is worked on to its end is in normal form. -/
theorem Worked.normalForm {root made : Element} {s t : State ω} {answers : List Answer}
    (hw : Worked h root s made answers t) (hcovers : ∀ x ∈ root.within, s.stash.Covers x) :
    NormalForm s.stash t.stash (answers.map Answer.call) made where
  entries := ⟨answers, rfl, hw.ran.entries⟩
  behind := by
    intro x hx i e marker he hstart hnew
    have hst := hw.ran.extends
    have hpaired := hw.paired (Stash.Extends.refl _) hcovers (drawn_shows _ _) x hx
    have hc : s.stash.Covers e := (hpaired.covers_or (List.mem_of_getElem? he)).resolve_right
      fun ⟨eqn, heqn⟩ => hnew (hw.ran.isImage heqn)
    rw [startMarker?_eq_of_extends hst hc] at hstart
    obtain ⟨eqn, new, stop, hnew, hstop, ⟨k, a, ha, rfl, rfl⟩, hattributes, hc', hend⟩ :=
      hpaired.behind (fun eqn y hy => not_covers_of_isImage (hw.ran.isImage hy)) he hc hstart
    refine ⟨k, a, stop, hnew, hstop, ?_, hattributes, ?_, ?_⟩
    · rw [isEndMarker_eq_of_extends hst hc', hend]
    · rw [List.getElem?_map, ha]
      rfl
    · rw [hw.ran.getElem?, ha]
      rfl
  nodup := hw.nodup_places hcovers

theorem report_eq_ok {n : ℕ} {s s' : State ω} {x : Unit} (hr : report h n s = (.ok x, s')) :
    s'.stash = s.stash ∧ h.Logged s.outside s'.outside := by
  unfold report at hr
  split at hr
  · obtain ⟨-, rfl⟩ := Prod.mk.inj hr
    exact ⟨rfl, .refl _⟩
  · exact note_eq hr

/-- A run that no failure ends works on the whole tree and reports. -/
theorem run_worked (h : Host ω) (root : Element) (s : State ω)
    (hok : (run h root s).failure = none) :
    ∃ answers t, Worked h root s (run h root s).made answers t ∧
      (run h root s).state.stash = t.stash ∧
      h.Logged t.outside (run h root s).state.outside := by
  cases hroot : (element h root s).failure with
  | some f => simp [run, hroot] at hok
  | none =>
    obtain ⟨answers, hw, -⟩ := element_worked h root s hroot
    rcases hreport : report h (element h root s).count (element h root s).state with ⟨f | _, s'⟩
    · simp [run, hroot, hreport] at hok
    · obtain ⟨hstash, hlogged⟩ := report_eq_ok hreport
      simp only [run, hroot, hreport]
      exact ⟨answers, _, hw, hstash, hlogged⟩

/-- **A run that no failure ends leaves the tree in normal form.** -/
theorem normalForm_run (h : Host ω) (root : Element) (s : State ω)
    (hcovers : ∀ x ∈ root.within, s.stash.Covers x) (hok : (run h root s).failure = none) :
    NormalForm s.stash (run h root s).state.stash (calls h root s) (run h root s).made := by
  rw [run_eq_traced] at hok ⊢
  obtain ⟨answers, t, hw, hstash, hlogged⟩ := run_worked h.traced root _ hok
  have hcalls : calls h root s = answers.map Answer.call := by
    show (traced h root s).state.outside.2 = _
    exact (Host.calls_of_logged hlogged).trans hw.ran.calls
  have hstash' : ((traced h root s).map Prod.fst).state.stash = t.stash := hstash
  rw [hcalls, hstash']
  exact hw.normalForm hcovers

/-- A host that numbers its answers. -/
def counter : Host ℕ where
  render _ := fun n => (.ok (some (Text.decimal n)), n + 1)
  log _ _ := Action.result ()

/-- Two start markers and an end marker. -/
def sampleStash : Stash :=
  ⟨[.html (Marker.start ⟨"a".toList, [], "x".toList⟩), .html Marker.stop,
    .html (Marker.start ⟨"b".toList, "y".toList, "y^2".toList⟩)]⟩

/-- A pair and, in a quotation, a pair with another start marker in its middle. -/
def sample : Element :=
  Element.node "div" [Stash.image 0, Stash.image 1,
    Element.node "blockquote" [Stash.image 2, Stash.image 0, Stash.image 1]]

theorem normalForm_run_sample :
    (∀ x ∈ sample.within, sampleStash.Covers x) ∧
      (run counter sample ⟨sampleStash, 7⟩).failure = none ∧
      NormalForm sampleStash (run counter sample ⟨sampleStash, 7⟩).state.stash
        (calls counter sample ⟨sampleStash, 7⟩) (run counter sample ⟨sampleStash, 7⟩).made :=
  ⟨by decide, by decide +kernel,
    normalForm_run counter sample ⟨sampleStash, 7⟩ (by decide) (by decide +kernel)⟩

end Pass

end MathPage
