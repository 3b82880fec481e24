import MathPage.Proofs.Equation.Gap
import MathPage.Proofs.Equation.Outcome
import MathPage.Proofs.Equation.Repeat
import MathPage.Proofs.Equation.Untouched

/-!
# What an image takes the place of

The outcome of a pass over a tree with an element in a gap is that of the part in front of the
element, that of the part below it, and that of the part behind it (`Gap.exists_tree_eq`). An element
that an image takes the place of matters by its own outcome, therefore: the renderer is called for
what is below it, and a failure there ends the run (`run_replaced`).
-/

namespace MathPage

open Stash

namespace Pass

variable {ω : Type} {h : Host ω} {s₀ : Stash}

/-- The outcome of a list does not depend on more than the positions that its elements name. -/
theorem Outcome.list_congr (f : Equation → Except Failure (Option Text)) {es es' : List Element}
    (hes : SamePlaces es es') (hcovers : ∀ e ∈ es, s₀.Covers e) :
    Outcome.list f s₀ es' = Outcome.list f s₀ es := by
  rw [Outcome.list_eq_scan f hcovers, Outcome.list_eq_scan f (hes.covers hcovers),
    scan_congr _ hes]

namespace Gap

variable {g : Gap} {m m' : Element} {i : ℕ} {path : List ℕ} {root : Element}

/-- The siblings come to the same, whatever is in the gap. -/
theorem list_children (f : Equation → Except Failure (Option Text)) (hg : g.Fits s₀)
    (hm : isEndMarker s₀ m = false) (hcovers : ∀ e ∈ g.children m, s₀.Covers e) :
    Outcome.list f s₀ (g.children m) = Outcome.list f s₀ (g.children g.start) := by
  have hsome := hg.start
  have hstart : isEndMarker s₀ g.start = false := by
    cases hend : isEndMarker s₀ g.start with
    | false => rfl
    | true => simp [startMarker?_of_isEndMarker hend] at hsome
  have hcovers' : ∀ e ∈ g.children g.start, s₀.Covers e := fun e he => hcovers e (by
    simp only [children, List.mem_append, List.mem_cons] at he ⊢
    tauto)
  rw [Outcome.list_eq_scan f hcovers, Outcome.list_eq_scan f hcovers',
    scan_children hg hm hstart hcovers hcovers' (Extends.refl s₀)]

/-- **The outcome of a pass** is that of the part in front of the element in a gap, that of the part
below it, and that of the part behind it. -/
theorem exists_tree_eq (f : Equation → Except Failure (Option Text)) (hg : g.Fits s₀) :
    ∀ (path : List ℕ) (root : Element), (Element.atPath? path root).isSome = true →
      ∃ front behind : Outcome, ∀ m, g.Admits s₀ path root m →
        Outcome.tree f s₀ (g.fill path root m) =
          front.andThen ((Outcome.tree f s₀ m).andThen behind)
  | [], root, _ => by
    refine ⟨(Outcome.list f s₀ (g.children g.start)).andThen
      (Outcome.trees f s₀ (g.done ++ [g.start])), Outcome.trees f s₀ (g.stop :: g.rest),
      fun m hm => ?_⟩
    have hlist := list_children f hg hm.notEnd hm.covers_children
    show Outcome.tree f s₀ { root with children := g.children m } = _
    rw [Outcome.tree_eq, hlist, children_eq g m, Outcome.trees_append, Outcome.trees,
      Outcome.andThen_assoc]
  | i :: path, root, hpath => by
    obtain ⟨hi, hpath'⟩ := Element.lt_of_atPath? hpath
    obtain ⟨front, behind, hchild⟩ := exists_tree_eq f hg path root.children[i] hpath'
    refine ⟨(Outcome.list f s₀ (root.children.take i ++ g.fill path root.children[i] g.start ::
        root.children.drop (i + 1))).andThen
      ((Outcome.trees f s₀ (root.children.take i)).andThen front),
      behind.andThen (Outcome.trees f s₀ (root.children.drop (i + 1))), fun m hm => ?_⟩
    have hcovers := hm.covers_siblings hi
    have hlist := Outcome.list_congr f (samePlaces_fill g path root.children[i] m g.start
      (root.children.take i) (root.children.drop (i + 1))) hcovers
    rw [fill_cons g path hi, Outcome.tree_eq, hlist, Outcome.trees_append, Outcome.trees,
      hchild m (hm.of_cons hi)]
    simp only [Outcome.andThen_assoc]

/-- The stash covers all that is below an element in a gap. -/
theorem Admits.covers_within : ∀ {path : List ℕ} {root : Element},
    (Element.atPath? path root).isSome = true → g.Admits s₀ path root m →
      ∀ x ∈ m.within, s₀.Covers x
  | [], root, _, hm, x, hx => hm.covers x (by
    have hmem : m ∈ (g.fill [] root m).children := by simp [fill, Element.updateAt, children]
    rw [Element.within_eq]
    exact List.mem_cons_of_mem _ (Element.mem_withinAll.2 ⟨m, hmem, hx⟩))
  | i :: path, root, hpath, hm, x, hx => by
    obtain ⟨hi, hpath'⟩ := Element.lt_of_atPath? hpath
    exact (hm.of_cons hi).covers_within hpath' x hx

end Gap

/-! ### Runs -/

/-- Elements with the same outcome are the same to the recorder. -/
theorem same_of_outcome (hq : h.NeverRefuses) {f : Equation → Except Failure (Option Text)}
    (hf : ∀ eqn w, (h.render eqn w).1 = f eqn) {s : State ω} {m m' : Element}
    (hm : ∀ x ∈ m.within, s.stash.Covers x) (hm' : ∀ x ∈ m'.within, s.stash.Covers x)
    (hsame : outcome h m' s = outcome h m s) (t : State (List Call)) (ht : s.stash.Extends t.stash) :
    Same (element (Host.recorder f) m t) (element (Host.recorder f) m' t) := by
  rw [outcome_eq_tree hq hf hm, outcome_eq_tree hq hf hm'] at hsame
  rw [Element.within_eq] at hm hm'
  have hone := element_meets f m t (fun x hx => hm x (List.mem_cons_of_mem _ hx)) ht
  have hother := element_meets f m' t (fun x hx => hm' x (List.mem_cons_of_mem _ hx)) ht
  obtain ⟨hcalls, hfailure⟩ := Outcome.mk.inj hsame
  refine ⟨?_, ?_⟩
  · rw [hone.failure, hother.failure]
    exact hfailure
  · rw [hone.state, hother.state, hcalls]

/-- **What stands between two markers matters by what is below it.** For every element in a gap, the
outcome of the run is that of a first part, that of a run over the element itself, and that of a last
part, one after the other. Two elements with the same outcome leave the same tree and the same stash.
An element with no start marker below it has no outcome of its own. -/
theorem run_replaced (h : Host ω) (hq : h.NeverRefuses) (hp : h.IsPure) (s : State ω) (g : Gap)
    (hg : g.Fits s.stash) (path : List ℕ) (root : Element)
    (hpath : (Element.atPath? path root).isSome = true) :
    (∃ front behind : Outcome, ∀ m, g.Admits s.stash path root m →
      outcome h (g.fill path root m) s = front.andThen ((outcome h m s).andThen behind)) ∧
    (∀ m m', g.Admits s.stash path root m → g.Admits s.stash path root m' →
      outcome h m' s = outcome h m s →
        outcome h (g.fill path root m') s = outcome h (g.fill path root m) s ∧
        ∀ p q, run h (g.fill path root m) s = p → run h (g.fill path root m') s = q →
          q.state.stash = p.state.stash ∧ (p.failure = none → q.made = p.made)) ∧
    (∀ m, (∀ x ∈ Element.withinAll m.children, startMarker? s.stash x = none) →
      outcome h m s = .nothing) := by
  obtain ⟨f, hf⟩ := hp
  refine ⟨?_, ?_, fun m hm => ?_⟩
  · obtain ⟨front, behind, htree⟩ := Gap.exists_tree_eq f hg path root hpath
    refine ⟨front.beyond, behind.beyond, fun m hm => ?_⟩
    rw [outcome_eq_tree hq hf hm.covers, outcome_eq_tree hq hf (hm.covers_within hpath), htree m hm,
      Outcome.andThen_beyond, Outcome.andThen_beyond]
  · intro m m' hm hm' hsame
    have hbelow := same_of_outcome hq hf (hm.covers_within hpath) (hm'.covers_within hpath) hsame
    obtain ⟨⟨hfailure, hstate⟩, hmade⟩ :=
      g.element_fill hg hbelow path root hm hm' ⟨s.stash, []⟩ (Extends.refl s.stash)
    obtain ⟨hone, hstash, ho⟩ := run_eq_recorder hq hf (g.fill path root m) s rfl
    obtain ⟨hother, hstash', ho'⟩ := run_eq_recorder hq hf (g.fill path root m') s rfl
    refine ⟨by rw [ho, ho', Outcome.beyond, Outcome.beyond, hfailure, hstate], ?_⟩
    rintro p q rfl rfl
    refine ⟨by rw [hstash, hstash', hstate], fun hok => ?_⟩
    have hbeyond := (congrArg Outcome.failure ho).symm.trans hok
    rw [hone, hother, hmade (Option.map_eq_none_iff.1 hbeyond)]
  · rw [outcome, calls, traced, run_of_unmarked h.traced (by exact hm), run_of_unmarked h hm]
    rfl

/-- The gap between the two markers of a pair. -/
def sampleGap : Gap := ⟨[], Stash.image 0, Stash.image 1, []⟩

/-- A tree with an element between the two markers. -/
def sampleFilled (m : Element) : Element := sampleGap.fill [] (Element.node "div" []) m

/-- A quotation of a start marker without an end marker. -/
def staleQuotation : Element := Element.node "blockquote" [Stash.image 2]

/-- A paragraph that stands for nothing. -/
def staleLeaf : Element := Element.leaf "p" "z".toList

theorem run_replaced_sample :
    quoter.NeverRefuses ∧ quoter.IsPure ∧ sampleGap.Fits sampleStash ∧
      (∃ front behind : Outcome,
        outcome quoter (sampleFilled staleQuotation) ⟨sampleStash, ()⟩ =
          front.andThen ((outcome quoter staleQuotation ⟨sampleStash, ()⟩).andThen behind) ∧
        outcome quoter (sampleFilled staleLeaf) ⟨sampleStash, ()⟩ = front.andThen behind) ∧
      (run quoter (sampleFilled staleLeaf) ⟨sampleStash, ()⟩).failure = none ∧
      (run quoter (sampleFilled (Element.node "hr" [])) ⟨sampleStash, ()⟩).made =
        (run quoter (sampleFilled staleLeaf) ⟨sampleStash, ()⟩).made := by
  have hq : quoter.NeverRefuses := fun _ _ _ => rfl
  have hp : quoter.IsPure := ⟨fun e => (quoter.render e ()).1, fun _ _ => rfl⟩
  have hg : sampleGap.Fits sampleStash := ⟨⟨[], .nil _⟩, by decide +kernel, by decide +kernel⟩
  obtain ⟨⟨front, behind, houtcome⟩, hsame, hnothing⟩ :=
    run_replaced quoter hq hp ⟨sampleStash, ()⟩ sampleGap hg [] (Element.node "div" []) rfl
  have hquotation : sampleGap.Admits sampleStash [] (Element.node "div" []) staleQuotation :=
    ⟨by decide +kernel, by decide +kernel⟩
  have hleaf : sampleGap.Admits sampleStash [] (Element.node "div" []) staleLeaf :=
    ⟨by decide +kernel, by decide +kernel⟩
  have hrule : sampleGap.Admits sampleStash [] (Element.node "div" []) (Element.node "hr" []) :=
    ⟨by decide +kernel, by decide +kernel⟩
  have hempty := hnothing staleLeaf (by decide +kernel)
  have hempty' := hnothing (Element.node "hr" []) (by decide +kernel)
  have hok : (run quoter (sampleFilled staleLeaf) ⟨sampleStash, ()⟩).failure = none := by rfl
  have hmade := ((hsame _ _ hleaf hrule (hempty'.trans hempty.symm)).2 _ _ rfl rfl).2 hok
  refine ⟨hq, hp, hg, ⟨front, behind, houtcome _ hquotation, ?_⟩, hok, hmade⟩
  exact (houtcome _ hleaf).trans (by rw [hempty, Outcome.nothing_andThen])

/-- Two elements in the same gap: below the first one a start marker is rendered, and the run fails
there; with the second one it does not fail. -/
theorem run_replaced_quotation :
    sampleGap.Admits sampleStash [] (Element.node "div" []) staleQuotation ∧
      sampleGap.Admits sampleStash [] (Element.node "div" []) staleLeaf ∧
      (run quoter (sampleFilled staleQuotation) ⟨sampleStash, ()⟩).failure =
        some (.block (Marker.start ⟨"b".toList, "y".toList, "y^2".toList⟩)) ∧
      (calls quoter (sampleFilled staleQuotation) ⟨sampleStash, ()⟩).map (·.equation.label) =
        ["a".toList, "b".toList] ∧
      (run quoter (sampleFilled staleLeaf) ⟨sampleStash, ()⟩).failure = none ∧
      (calls quoter (sampleFilled staleLeaf) ⟨sampleStash, ()⟩).map (·.equation.label) =
        ["a".toList] := by
  refine ⟨⟨?_, ?_⟩, ⟨?_, ?_⟩, ?_⟩
  · decide +kernel
  · decide +kernel
  · decide +kernel
  · decide +kernel
  · exact ⟨by rfl, by decide +kernel, by rfl, by decide +kernel⟩

end Pass

end MathPage
