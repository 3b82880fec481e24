import MathPage.Proofs.Equation.Asked
import MathPage.Proofs.Equation.NormalForm

/-!
# What a pass leaves as it is

* `Element.thin` – a tree without some of the elements below it;
* `Pass.spared` – the siblings that no image takes the place of;
* `Pass.genuine` – the siblings that are no images of the pass.

A pass that no failure ends changes nothing else: its tree without its images is the tree before it
without the elements that the images replaced (`Worked.thin`). Both are compared as a whole, so that
nothing is lost, duplicated or moved at any depth.
-/

namespace MathPage

open Stash

/-! ### Trees without some of their elements -/

namespace Element

/-- The members of a list that are kept, with a mark for each of them. -/
def sift {α : Type} : List Bool → List α → List α
  | true :: marks, x :: xs => x :: sift marks xs
  | false :: marks, _ :: xs => sift marks xs
  | _, _ => []

mutual

/-- A tree in which, of every list of siblings below it, only some are kept. What is left out goes
with its tail and with all that is below it. -/
def thin (kept : List Element → List Bool) : Element → Element
  | ⟨tag, attributes, text, literal, children, tail⟩ =>
    ⟨tag, attributes, text, literal, sift (kept children) (thinAll kept children), tail⟩

/-- The same for each of several elements, all of which are kept themselves. -/
def thinAll (kept : List Element → List Bool) : List Element → List Element
  | [] => []
  | e :: es => e.thin kept :: thinAll kept es

end

end Element

open Element (sift thinAll)

namespace Pass

variable {ω : Type} {h : Host ω}

/-! ### What is left out of the tree before a pass -/

/-- The siblings that no image takes the place of: all but those between a start marker and an end
marker two positions behind it. -/
def spared (s : Stash) : List Element → List Bool
  | e :: old :: stop :: rest =>
    if (startMarker? s e).isSome && !isEndMarker s old && isEndMarker s stop then
      true :: false :: true :: spared s rest
    else true :: spared s (old :: stop :: rest)
  | es => es.map fun _ => true

variable {s : Stash} {e old stop : Element}

theorem spared_plain (he : startMarker? s e = none) (rest : List Element) :
    spared s (e :: rest) = true :: spared s rest := by
  match rest with
  | [] | [_] => rfl
  | old :: stop :: rest => simp [spared, he]

theorem spared_pair (hstop : isEndMarker s stop = true) (rest : List Element) :
    spared s (e :: stop :: rest) = true :: true :: spared s rest := by
  rw [← spared_plain (startMarker?_of_isEndMarker hstop)]
  cases rest with
  | nil => rfl
  | cons x rest => simp [spared, hstop]

theorem spared_around {marker : Text} (he : startMarker? s e = some marker)
    (hold : isEndMarker s old = false) (hstop : isEndMarker s stop = true) (rest : List Element) :
    spared s (e :: old :: stop :: rest) = true :: false :: true :: spared s rest := by
  simp [spared, he, hold, hstop]

/-! ### What is left out of the tree after a pass -/

instance (e : Element) (n : ℕ) : Decidable (e = Stash.image n) :=
  decidable_of_iff (e.tag = "p".toList ∧ e.attributes = [] ∧ e.text = some (placeholder n) ∧
      e.literal = false ∧ e.children.isEmpty ∧ e.tail = none) (by
    obtain ⟨tag, attributes, text, literal, children, tail⟩ := e
    simp [Stash.image, Element.leaf])

instance (s t : Stash) : DecidablePred (IsImage s t) := fun e =>
  decidable_of_iff (∃ n ∈ place? e, s.entries.length ≤ n ∧ n < t.entries.length ∧
      e = Stash.image n) (by
    constructor
    · rintro ⟨n, -, hn⟩
      exact ⟨n, hn⟩
    · rintro ⟨n, hle, hlt, rfl⟩
      exact ⟨n, place?_image n, hle, hlt, rfl⟩)

/-- The siblings that are no images of a pass between two stashes. -/
def genuine (s t : Stash) (es : List Element) : List Bool :=
  es.map fun e => !decide (IsImage s t e)

variable {s₀ t₀ : Stash}

theorem sift_genuine_image {x : Element} (hx : IsImage s₀ t₀ x) (es : List Element) :
    sift (genuine s₀ t₀ (x :: es)) (thinAll (genuine s₀ t₀) (x :: es)) =
      sift (genuine s₀ t₀ es) (thinAll (genuine s₀ t₀) es) := by
  simp [genuine, sift, thinAll, hx]

theorem sift_genuine_covers {x : Element} (hx : s₀.Covers x) (es : List Element) :
    sift (genuine s₀ t₀ (x :: es)) (thinAll (genuine s₀ t₀) (x :: es)) =
      x.thin (genuine s₀ t₀) :: sift (genuine s₀ t₀ es) (thinAll (genuine s₀ t₀) es) := by
  have hno : ¬ IsImage s₀ t₀ x := fun hi => not_covers_of_isImage hi hx
  simp [genuine, sift, thinAll, hno]

/-! ### The two agree -/

/-- What is below an element has been worked on: the element names the position that it named, and
without the images it is what it was without the elements that they replaced. -/
def Alike (s₀ t₀ : Stash) (e e' : Element) : Prop :=
  place? e' = place? e ∧ e'.thin (genuine s₀ t₀) = e.thin (spared s₀)

/-- An edited list without its images is the list without the elements that were replaced. -/
theorem Edited.sift {es : List Element} {s t : State ω} {edits : List Edit}
    {answers : List Answer} (he : Edited h es s edits answers t) (hs : s₀.Extends s.stash)
    (hcovers : ∀ e ∈ es, s₀.Covers e)
    (hd : Drawn (fun _ x => IsImage s₀ t₀ x) s.stash.entries.length answers)
    {es' : List Element} (hes : List.Forall₂ (Alike s₀ t₀) es es') :
    sift (genuine s₀ t₀ (Edit.apply edits es'))
        (thinAll (genuine s₀ t₀) (Edit.apply edits es')) =
      sift (spared s₀ es) (thinAll (spared s₀) es) := by
  induction he generalizing es' with
  | nil =>
    cases hes
    rfl
  | @plain e rest s t edits answers hplain _ ih =>
    obtain ⟨e', rest', hfirst, hrest, rfl⟩ := List.forall₂_cons_left_iff.1 hes
    have hc := hcovers e (by simp)
    have hplain' := (startMarker?_eq_of_extends hs hc).symm.trans hplain
    rw [Edit.apply, sift_genuine_covers (covers_congr hfirst.1 hc), hfirst.2,
      ih hs (fun x hx => hcovers x (by simp [hx])) hd hrest, spared_plain hplain']
    rfl
  | @insert e stop rest s s₁ s₂ t marker a edits answers hstart hrendered hstop hstash _ _ ih =>
    obtain ⟨e', _, hfirst, htail, rfl⟩ := List.forall₂_cons_left_iff.1 hes
    obtain ⟨stop', rest', hlast, hrest, rfl⟩ := List.forall₂_cons_left_iff.1 htail
    have hs₁ : s₀.Extends s₁.stash := hs.trans hrendered.extends
    have hc := hcovers e (by simp)
    have hc' := hcovers stop (by simp)
    have hstop' := (isEndMarker_eq_of_extends hs₁ hc').symm.trans hstop
    have hrest' := ih (hstash ▸ hs₁) (fun x hx => hcovers x (by simp [hx]))
      (hrendered.length_eq hstash ▸ hd.tail) hrest
    simp only [Edit.apply]
    rw [sift_genuine_covers (covers_congr hfirst.1 hc), sift_genuine_image hd.head,
      sift_genuine_covers (covers_congr hlast.1 hc'), hfirst.2, hlast.2, hrest', spared_pair hstop']
    rfl
  | @replace e old stop rest s s₁ s₂ t marker a edits answers hstart hrendered hold hstop hstash _ _
      ih =>
    obtain ⟨e', _, hfirst, htail, rfl⟩ := List.forall₂_cons_left_iff.1 hes
    obtain ⟨old', _, -, htail', rfl⟩ := List.forall₂_cons_left_iff.1 htail
    obtain ⟨stop', rest', hlast, hrest, rfl⟩ := List.forall₂_cons_left_iff.1 htail'
    have hs₁ : s₀.Extends s₁.stash := hs.trans hrendered.extends
    have hc := hcovers e (by simp)
    have hc' := hcovers stop (by simp)
    have hstart' := (startMarker?_eq_of_extends hs hc).symm.trans hstart
    have hold' := (isEndMarker_eq_of_extends hs₁ (hcovers old (by simp))).symm.trans hold
    have hstop' := (isEndMarker_eq_of_extends hs₁ hc').symm.trans hstop
    have hrest' := ih (hstash ▸ hs₁) (fun x hx => hcovers x (by simp [hx]))
      (hrendered.length_eq hstash ▸ hd.tail) hrest
    simp only [Edit.apply]
    rw [sift_genuine_covers (covers_congr hfirst.1 hc), sift_genuine_image hd.head,
      sift_genuine_covers (covers_congr hlast.1 hc'), hfirst.2, hlast.2, hrest',
      spared_around hstart' hold' hstop']
    rfl

mutual

/-- **A tree that is worked on to its end is untouched** but for the images and what they replace. -/
theorem Worked.thin {e made : Element} {s t : State ω} {answers : List Answer} :
    Worked h e s made answers t → s₀.Extends s.stash → (∀ x ∈ e.within, s₀.Covers x) →
      Drawn (fun _ x => IsImage s₀ t₀ x) s.stash.entries.length answers →
        made.thin (genuine s₀ t₀) = e.thin (spared s₀)
  | .mk hedited hbelow, hs, hcovers, hd => by
    rw [Element.within_eq] at hcovers
    have hcovers' := fun y hy => hcovers y (List.mem_cons_of_mem _ hy)
    have hrest := hbelow.alike (hs.trans hedited.ran.extends) hcovers'
      (hedited.ran.length ▸ hd.right)
    have hsift := hedited.sift hs (fun y hy => hcovers' y (Element.mem_withinAll_of_mem hy))
      hd.left hrest
    simp only [Element.thin, hsift]

/-- The same for what is below each of several elements. -/
theorem WorkedAll.alike {es mades : List Element} {s t : State ω} {answers : List Answer} :
    WorkedAll h es s mades answers t → s₀.Extends s.stash →
      (∀ x ∈ Element.withinAll es, s₀.Covers x) →
        Drawn (fun _ x => IsImage s₀ t₀ x) s.stash.entries.length answers →
          List.Forall₂ (Alike s₀ t₀) es mades
  | .nil _, _, _, _ => .nil
  | .cons hfirst hrest, hs, hcovers, hd => by
    rw [Element.withinAll_cons] at hcovers
    have hfirst' := hfirst.thin hs (fun x hx => hcovers x (List.mem_append_left _ hx)) hd.left
    exact .cons ⟨hfirst.place?, hfirst'⟩ (hrest.alike (hs.trans hfirst.ran.extends)
      (fun x hx => hcovers x (List.mem_append_right _ hx)) (hfirst.ran.length ▸ hd.right))

end

/-- A run over a tree without start markers does nothing at all. -/
theorem run_of_unmarked (h : Host ω) {root : Element} {s : State ω}
    (hroot : ∀ x ∈ Element.withinAll root.children, startMarker? s.stash x = none) :
    run h root s = ⟨root, 0, none, s⟩ := by
  simp only [run, element_of_unmarked h root s hroot]
  rfl

/-- **A run touches nothing else.** If it succeeds, its tree without the images that it made is the
tree before it without the elements between a start marker and an end marker two positions behind,
and it has only added to the stash. A tree without start markers is left as it was, with the same
stash and no call of the renderer. -/
theorem run_untouched (h : Host ω) (root : Element) (s : State ω) {q : Progress ω Element}
    (hq : run h root s = q) :
    ((∀ x ∈ root.within, s.stash.Covers x) → q.failure = none →
      q.made.thin (genuine s.stash q.state.stash) = root.thin (spared s.stash) ∧
        s.stash.Extends q.state.stash) ∧
    ((∀ x ∈ Element.withinAll root.children, startMarker? s.stash x = none) →
      q = ⟨root, 0, none, s⟩ ∧ calls h root s = []) := by
  subst hq
  constructor
  · intro hcovers hok
    obtain ⟨answers, t, hw, hstash, -⟩ := run_worked h root s hok
    rw [hstash]
    have hdrawn : Drawn (fun _ x => IsImage s.stash t.stash x) s.stash.entries.length answers :=
      fun k a ha => hw.ran.isImage ⟨k, a, ha, rfl, rfl⟩
    exact ⟨hw.thin (Extends.refl _) hcovers hdrawn, hw.ran.extends⟩
  · intro hroot
    refine ⟨run_of_unmarked h hroot, ?_⟩
    rw [calls, traced, run_of_unmarked h.traced (by exact hroot)]

/-- The sample without the start marker in the middle of its second pair. -/
def sampleSpared : Element :=
  Element.node "div" [Stash.image 0, Stash.image 1,
    Element.node "blockquote" [Stash.image 2, Stash.image 1]]

theorem run_untouched_sample :
    (∀ x ∈ sample.within, sampleStash.Covers x) ∧
      sample.thin (spared sampleStash) = sampleSpared ∧
      (∃ q, run counter sample ⟨sampleStash, 7⟩ = q ∧ q.failure = none ∧ q.count = 2 ∧
        q.made.thin (genuine sampleStash q.state.stash) = sampleSpared ∧
        sampleStash.Extends q.state.stash) ∧
      ∃ root, run counter root ⟨sampleStash, 7⟩ = ⟨root, 0, none, ⟨sampleStash, 7⟩⟩ ∧
        calls counter root ⟨sampleStash, 7⟩ = [] := by
  have hcovers : ∀ x ∈ sample.within, sampleStash.Covers x := by decide
  have hspared : sample.thin (spared sampleStash) = sampleSpared := by rfl
  have hok : (run counter sample ⟨sampleStash, 7⟩).failure = none := by decide +kernel
  obtain ⟨hthin, hextends⟩ := (run_untouched counter sample ⟨sampleStash, 7⟩ rfl).1 hcovers hok
  have hunmarked : ∀ x ∈ Element.withinAll (Element.node "div" [Stash.image 1]).children,
      startMarker? sampleStash x = none := by decide +kernel
  exact ⟨hcovers, hspared, ⟨_, rfl, hok, by decide +kernel, hthin.trans hspared, hextends⟩, _,
    (run_untouched counter _ ⟨sampleStash, 7⟩ rfl).2 hunmarked⟩

end Pass

end MathPage
