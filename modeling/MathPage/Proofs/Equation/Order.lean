import MathPage.Proofs.Equation.Abreast
import MathPage.Proofs.Equation.Repeat
import MathPage.Proofs.Equation.Visits

/-!
# The order of visits

* `Host.LogIsPure` – a logger whose answer depends on the message only;
* `Pass.alone` – what a visit to an element does to its children if nothing was done before;
* `Pass.Stands` – a tree some of whose elements were visited: read through the stash, the children of
  each of them are what the visit alone makes of them;
* `Pass.Visited`, `Pass.InTurn` – two elements that are visited one after the other, and two that are
  worked on in the tree.

What a visit does to an element depends on the positions that its children name and on the pieces at
these positions. Earlier visits change neither: they make images of the children of other elements
and add to the stash. A visit therefore goes as it does alone, and only its images are numbered from
elsewhere (`Stands.visit`). What has been done to a tree is then told, up to what the placeholders
stand for, by which elements were visited, and not by the order (`Stands.spell_eq`). Two elements may
be worked on in either order, and a pass may visit the elements in any order
(`children_independent`).
-/

namespace MathPage

open Stash

variable {ω : Type} {h : Host ω}

/-- What the logger answers depends on the message only. -/
def Host.LogIsPure (h : Host ω) : Prop :=
  ∃ f : Severity → Text → Except Failure Unit, ∀ severity t w, (h.log severity t w).1 = f severity t

/-- A host with a pure renderer and a pure logger answers alike in any two states. -/
theorem Host.twin_of_isPure (hrender : h.IsPure) (hlog : h.LogIsPure) :
    Host.Twin (fun _ _ => True) h h where
  render e w w' _ := by
    obtain ⟨f, hf⟩ := hrender
    exact ⟨(hf e w).trans (hf e w').symm, trivial⟩
  log severity t w w' _ := by
    obtain ⟨f, hf⟩ := hlog
    exact ⟨(hf severity t w).trans (hf severity t w').symm, trivial⟩

/-! ### Images as they read through a stash -/

theorem Element.spell_image (write : Entry → Text) (s : Stash) (n : ℕ) :
    (Stash.image n).spell write s =
      leaf "p" ((s.entries[n]?.map write).getD (placeholder n)) := by
  rw [spell, mapTexts_image, Stash.spell, substitute_placeholder]

/-- Images of the same piece read alike. -/
theorem Element.spell_image_congr {write : Entry → Text} {s t : Stash} {m n : ℕ} {e : Entry}
    (hs : s.entries[m]? = some e) (ht : t.entries[n]? = some e) :
    (Stash.image n).spell write t = (Stash.image m).spell write s := by
  rw [spell_image, spell_image, hs, ht]
  rfl

section Twins

variable {l l' gained : List Entry} {t : Stash} {edit edit' : Edit} {edits edits' : List Edit}

/-- Edits that are the same but for the numbers of their images read alike. -/
theorem Edit.Twin.map_spell (hedit : Edit.Twin l.length l'.length gained.length edit edit')
    (ht : Extends ⟨l' ++ gained⟩ t) (write : Entry → Text) :
    edit'.map (Element.spell write t) = edit.map (Element.spell write ⟨l ++ gained⟩) := by
  have himage : ∀ i < gained.length, (Stash.image (l'.length + i)).spell write t =
      (Stash.image (l.length + i)).spell write ⟨l ++ gained⟩ := fun i hi => by
    refine Element.spell_image_congr (e := gained[i]) ?_ ?_
    · rw [List.getElem?_append_right (Nat.le_add_right _ _), Nat.add_sub_cancel_left]
      exact List.getElem?_eq_getElem hi
    · rw [ht.getElem? (by simpa using hi), List.getElem?_append_right (Nat.le_add_right _ _),
        Nat.add_sub_cancel_left]
      exact List.getElem?_eq_getElem hi
  cases hedit with
  | keep => rfl
  | insert hi => exact congrArg Edit.insert (himage _ hi)
  | replace hi => exact congrArg Edit.replace (himage _ hi)

theorem Edit.map_spell_of_twins
    (hedits : List.Forall₂ (Edit.Twin l.length l'.length gained.length) edits edits')
    (ht : Extends ⟨l' ++ gained⟩ t) (write : Entry → Text) :
    edits'.map (Edit.map (Element.spell write t)) =
      edits.map (Edit.map (Element.spell write ⟨l ++ gained⟩)) := by
  induction hedits with
  | nil => rfl
  | cons hedit _ ih => rw [List.map_cons, List.map_cons, hedit.map_spell ht, ih]

end Twins

namespace Pass

variable {root : Element} {s₀ s s' : State ω} {done : Set (List ℕ)} {E E' : Edits} {p : List ℕ}
  {ps qs : List (List ℕ)}

/-- What a visit to an element of the tree does to its children if nothing was done before. -/
def alone (h : Host ω) (root : Element) (s : State ω) (p : List ℕ) : Progress ω (List Edit) :=
  scan h (root.childrenAfter Edits.nil p) s

/-- The elements at the paths `done` were visited, each once: read through the stash, or through one
with further pieces, the edits of each are those of a visit to it alone. -/
structure Stands (h : Host ω) (root : Element) (s₀ : State ω) (done : Set (List ℕ)) (E : Edits)
    (s : State ω) : Prop where
  grown : s₀.stash.Extends s.stash
  visited : ∀ p ∈ done, ∀ (write : Entry → Text) (t : Stash), s.stash.Extends t →
    (E p).map (Edit.map (Element.spell write t)) =
      (alone h root s₀ p).made.map
        (Edit.map (Element.spell write (alone h root s₀ p).state.stash))
  rest : ∀ p ∉ done, E p = []

theorem Stands.start (h : Host ω) (root : Element) (s : State ω) :
    Stands h root s ∅ Edits.nil s where
  grown := .refl _
  visited _ hp := absurd hp (Set.notMem_empty _)
  rest _ _ := rfl

/-- An element without children is not edited. -/
theorem Stands.eq_nil_of_leaf (hs : Stands h root s₀ done E s) {e : Element}
    (he : root.atPath? p = some e) (hleaf : e.children = []) : E p = [] := by
  by_cases hp : p ∈ done
  · have hedits := hs.visited p hp (fun _ => []) s.stash (.refl _)
    rw [alone, Element.childrenAfter_nil he, hleaf, scan, List.map_nil] at hedits
    exact List.map_eq_nil_iff.1 hedits
  · exact hs.rest p hp

/-- Elements that name the same position of the first stash stand for the same. -/
theorem readAlike_of_place? {l l' : List Entry} {e e' : Element} (hl : Extends ⟨l⟩ ⟨l'⟩)
    (hcovers : Covers ⟨l⟩ e) (hplace : place? e' = place? e) : ReadAlike l l' e e' := by
  intro more
  rw [value?_eq, value?_eq, hplace]
  cases hp : place? e with
  | none => rfl
  | some n =>
    have hn : n < l.length := hcovers n hp
    have hn' : n < l'.length := hn.trans_le hl.length_le
    simp only [Option.bind_some]
    rw [List.getElem?_append_left hn', List.getElem?_append_left hn, hl.getElem? hn]

/-- The children of an element stand for what they stood for. -/
theorem Stands.readAlike (hs : Stands h root s₀ done E s) (hclosed : s₀.stash.Closed root)
    (hp : p ∉ done) :
    List.Forall₂ (ReadAlike s₀.stash.entries s.stash.entries)
      (root.childrenAfter Edits.nil p) (root.childrenAfter E p) := by
  cases he : root.atPath? p with
  | none =>
    rw [Element.childrenAfter, Element.childrenAfter, he]
    exact .nil
  | some e =>
    rw [Element.childrenAfter_nil he, Element.childrenAfter_eq he (hs.rest p hp)]
    refine List.forall₂_iff_get.2 ⟨(Element.length_reworkAll ..).symm, fun i hi hi' => ?_⟩
    have hc : root.atPath? (p ++ [i]) = some e.children[i] := by
      rw [Element.atPath?_append, he, Option.bind_some]
      exact Element.atPath?_cons.2 ⟨_, List.getElem?_eq_getElem hi, rfl⟩
    have hget : (Element.reworkAll (E.below p) 0 e.children)[i] =
        e.children[i].rework (E.below (p ++ [i])) := by
      refine Option.some.inj ?_
      rw [← List.getElem?_eq_getElem hi', Element.getElem?_reworkAll, List.getElem?_eq_getElem hi,
        Option.map_some, Edits.below_below, Nat.zero_add]
    refine readAlike_of_place? hs.grown (hclosed.covers _ (Element.mem_within_of_atPath? hc)) ?_
    show place? (Element.reworkAll (E.below p) 0 e.children)[i] = _
    rw [hget, Element.place?_rework fun hleaf => ?_]
    · rfl
    · rw [Edits.below_apply, List.append_nil]
      exact hs.eq_nil_of_leaf hc hleaf

/-- **A visit goes as it does alone**, whichever other elements were visited before. -/
theorem Stands.visit (hw : Host.Twin (fun _ _ => True) h h) (hclosed : s₀.stash.Closed root)
    (hs : Stands h root s₀ done E s) (hp : p ∉ done) :
    (visit h root p E s).count = (alone h root s₀ p).count ∧
      (visit h root p E s).failure = (alone h root s₀ p).failure ∧
      Stands h root s₀ (insert p done) (visit h root p E s).made (visit h root p E s).state := by
  have habreast : Abreast (fun _ _ => True) s₀.stash.entries s.stash.entries [] s₀ s :=
    ⟨(List.append_nil _).symm, (List.append_nil _).symm, trivial⟩
  obtain ⟨gained, hscanned⟩ := scan_abreast hw (hs.readAlike hclosed hp) habreast
  rw [List.nil_append] at hscanned
  have hfirst : (alone h root s₀ p).state.stash = ⟨s₀.stash.entries ++ gained⟩ :=
    congrArg Stash.mk hscanned.state.first
  have hsecond : (Pass.visit h root p E s).state.stash = ⟨s.stash.entries ++ gained⟩ :=
    congrArg Stash.mk hscanned.state.second
  have hgrown : s.stash.Extends (Pass.visit h root p E s).state.stash := by
    rw [hsecond]
    exact List.prefix_append _ _
  refine ⟨hscanned.count, hscanned.failure, hs.grown.trans hgrown, ?_, ?_⟩
  · intro q hq write t ht
    by_cases hqp : q = p
    · subst hqp
      rw [hfirst]
      refine (congrArg _ (Edits.set_self ..)).trans ?_
      exact Edit.map_spell_of_twins hscanned.edits (hsecond ▸ ht) write
    · refine (congrArg _ (Edits.set_of_ne hqp)).trans ?_
      exact hs.visited q (hq.resolve_left hqp) write t (hgrown.trans ht)
  · intro q hq
    obtain ⟨hqp, hqdone⟩ := not_or.1 hq
    exact (Edits.set_of_ne hqp).trans (hs.rest q hqdone)

/-- Several visits end without a failure if each of them does alone. -/
theorem Stands.visits (hw : Host.Twin (fun _ _ => True) h h) (hclosed : s₀.stash.Closed root)
    (hs : Stands h root s₀ done E s) (hnodup : ps.Nodup) (hps : ∀ p ∈ ps, p ∉ done) :
    ((visits h root ps E s).failure = none ↔ ∀ p ∈ ps, (alone h root s₀ p).failure = none) ∧
    ((visits h root ps E s).failure = none →
      (visits h root ps E s).count = (ps.map fun p => (alone h root s₀ p).count).sum ∧
      Stands h root s₀ ({p | p ∈ ps} ∪ done) (visits h root ps E s).made
        (visits h root ps E s).state) := by
  induction ps generalizing done E s with
  | nil =>
    refine ⟨by simp [Pass.visits], fun _ => ⟨rfl, ?_⟩⟩
    simpa [Pass.visits] using hs
  | cons p ps ih =>
    obtain ⟨hp, hnodup'⟩ := List.nodup_cons.1 hnodup
    obtain ⟨hcount, hfailure, hvisit⟩ := hs.visit hw hclosed (hps p List.mem_cons_self)
    have hps' : ∀ q ∈ ps, q ∉ insert p done := by
      rintro q hq (rfl | hqdone)
      · exact hp hq
      · exact hps q (List.mem_cons_of_mem _ hq) hqdone
    obtain ⟨hiff, hrest⟩ := ih hvisit hnodup' hps'
    rw [Pass.visits]
    cases halone : (alone h root s₀ p).failure with
    | some f =>
      rw [halone] at hfailure
      simp [hfailure, halone]
    | none =>
      rw [halone] at hfailure
      simp only [hfailure]
      refine ⟨?_, fun hok => ?_⟩
      · rw [hiff, List.forall_mem_cons, halone, eq_self, true_and]
      · obtain ⟨hcounts, hstands⟩ := hrest hok
        refine ⟨by rw [hcount, hcounts, List.map_cons, List.sum_cons], ?_⟩
        have hset : {q | q ∈ p :: ps} ∪ done = {q | q ∈ ps} ∪ insert p done := by
          ext q
          simp only [Set.mem_union, Set.mem_ofPred_eq, List.mem_cons, Set.mem_insert_iff]
          tauto
        rwa [hset]

/-- **Which elements were visited tells how the tree reads.** -/
theorem Stands.spell_eq (hclosed : s₀.stash.Closed root) (hs : Stands h root s₀ done E s)
    (hs' : Stands h root s₀ done E' s') (write : Entry → Text) :
    (root.rework E').spell write s'.stash = (root.rework E).spell write s.stash := by
  have hedits : (fun p => (E' p).map (Edit.map (Element.spell write s'.stash))) =
      fun p => (E p).map (Edit.map (Element.spell write s.stash)) := by
    funext p
    by_cases hp : p ∈ done
    · rw [hs'.visited p hp write _ (.refl _), hs.visited p hp write _ (.refl _)]
    · rw [hs'.rest p hp, hs.rest p hp, List.map_nil, List.map_nil]
  have hroot := (hclosed.spell_of_extends hs'.grown write).trans
    (hclosed.spell_of_extends hs.grown write).symm
  calc (root.rework E').spell write s'.stash
      = (root.spell write s'.stash).rework
          fun p => (E' p).map (Edit.map (Element.spell write s'.stash)) :=
        Element.mapTexts_rework ..
    _ = (root.spell write s.stash).rework
          fun p => (E p).map (Edit.map (Element.spell write s.stash)) := by rw [hroot, hedits]
    _ = (root.rework E).spell write s.stash := (Element.mapTexts_rework ..).symm

/-- Visits in any order end alike and leave trees that read alike. -/
theorem visits_perm (hw : Host.Twin (fun _ _ => True) h h) (hclosed : s.stash.Closed root)
    (hnodup : ps.Nodup) (hperm : qs.Perm ps) (hok : (visits h root ps Edits.nil s).failure = none) :
    (visits h root qs Edits.nil s).failure = none ∧
      (visits h root qs Edits.nil s).count = (visits h root ps Edits.nil s).count ∧
      ∀ write, (root.rework (visits h root qs Edits.nil s).made).spell write
          (visits h root qs Edits.nil s).state.stash =
        (root.rework (visits h root ps Edits.nil s).made).spell write
          (visits h root ps Edits.nil s).state.stash := by
  have hstart := Stands.start h root s
  obtain ⟨hiff, hvisits⟩ := hstart.visits hw hclosed hnodup fun _ _ => Set.notMem_empty _
  obtain ⟨hiff', hvisits'⟩ := hstart.visits hw hclosed (hperm.nodup_iff.2 hnodup)
    fun _ _ => Set.notMem_empty _
  have hok' : (visits h root qs Edits.nil s).failure = none :=
    hiff'.2 fun p hp => hiff.1 hok p (hperm.mem_iff.1 hp)
  obtain ⟨hcount, hstands⟩ := hvisits hok
  obtain ⟨hcount', hstands'⟩ := hvisits' hok'
  have hsame : {p | p ∈ qs} = {p | p ∈ ps} := Set.ext fun _ => hperm.mem_iff
  rw [hsame] at hstands'
  exact ⟨hok', by rw [hcount, hcount', (hperm.map _).sum_eq], hstands.spell_eq hclosed hstands'⟩

/-! ### Two elements, and all elements -/

/-- Two elements are visited one after the other, and no failure ends either visit. -/
structure Visited (h : Host ω) (root : Element) (s : State ω) (p q : List ℕ)
    (u v : Progress ω Edits) : Prop where
  first : visit h root p Edits.nil s = u
  second : visit h root q u.made u.state = v
  ok : u.failure = none ∧ v.failure = none

/-- The children of the element at `p` are worked on first and those of the element that was at `q`
next. The second element is still in the tree then, at a path to which the edits of the first have
perhaps moved it, and no failure ends either. -/
structure InTurn (h : Host ω) (root : Element) (s : State ω) (p q : List ℕ)
    (u v : Progress ω Element) : Prop where
  first : childrenAt h p root s = u
  second : ∃ q', (Edits.nil.set p (alone h root s p).made).track q = some q' ∧
    childrenAt h q' u.made u.state = v
  ok : u.failure = none ∧ v.failure = none

/-- What was done to the tree, as progress of the tree. -/
def Progress.onTree (root : Element) (u : Progress ω Edits) : Progress ω Element :=
  { u with made := root.rework u.made }

section Turns

variable {q : List ℕ} {a b : Element}

/-- Working on the children of an element of the tree as it is in the beginning is a visit. -/
theorem childrenAt_eq_visit (h : Host ω) (ha : root.atPath? p = some a) (s : State ω) :
    childrenAt h p root s = (visit h root p Edits.nil s).onTree root := by
  have hvisit := childrenAt_rework ha (Edits.track_nil p) rfl h s
  rwa [Element.rework_nil] at hvisit

/-- Working on two elements that stay in the tree is visiting them. -/
theorem inTurn_iff (ha : root.atPath? p = some a) (hb : root.atPath? q = some b) (hpq : p ≠ q)
    {x y : Progress ω Element} : InTurn h root s p q x y ↔
      ((Edits.nil.set p (alone h root s p).made).track q).isSome ∧
        ∃ u v, Visited h root s p q u v ∧ x = u.onTree root ∧ y = v.onTree root := by
  have hsecond := fun {q'} (hq' : (Edits.nil.set p (alone h root s p).made).track q = some q') =>
    childrenAt_rework hb hq' (Edits.set_of_ne hpq.symm) h (visit h root p Edits.nil s).state
  constructor
  · rintro ⟨rfl, ⟨q', hq', rfl⟩, hok⟩
    rw [childrenAt_eq_visit h ha] at hok ⊢
    refine ⟨Option.isSome_iff_exists.2 ⟨q', hq'⟩, _, _, ⟨rfl, rfl, hok.1, ?_⟩, rfl, hsecond hq'⟩
    exact (congrArg Progress.failure (hsecond hq')).symm.trans hok.2
  · rintro ⟨hsome, _, _, ⟨rfl, rfl, hok⟩, rfl, rfl⟩
    obtain ⟨q', hq'⟩ := Option.isSome_iff_exists.1 hsome
    exact ⟨childrenAt_eq_visit h ha s, ⟨q', hq', hsecond hq'⟩, hok⟩

/-- **Two visits may be made in either order.** -/
theorem Visited.swap (hw : Host.Twin (fun _ _ => True) h h) (hclosed : s.stash.Closed root)
    (hpq : p ≠ q) {u v : Progress ω Edits} (hvisited : Visited h root s p q u v) :
    ∃ v' u', Visited h root s q p v' u' ∧ u'.count = u.count ∧ v'.count = v.count ∧
      ∀ write, (root.rework u'.made).spell write u'.state.stash =
        (root.rework v.made).spell write v.state.stash := by
  obtain ⟨rfl, rfl, hok₁, hok₂⟩ := hvisited
  -- each visit goes as it does alone, in either order
  have hstart := Stands.start h root s
  obtain ⟨hcount₁, hfailure₁, hs₁⟩ := hstart.visit hw hclosed (Set.notMem_empty p)
  obtain ⟨hcount₂, hfailure₂, hs₂⟩ := hs₁.visit hw hclosed (p := q) (by simp [hpq.symm])
  obtain ⟨hcount₂', hfailure₂', hs₂'⟩ := hstart.visit hw hclosed (Set.notMem_empty q)
  obtain ⟨hcount₁', hfailure₁', hs₁'⟩ := hs₂'.visit hw hclosed (p := p) (by simp [hpq])
  refine ⟨_, _, ⟨rfl, rfl, ?_, ?_⟩, hcount₁'.trans hcount₁.symm, hcount₂'.trans hcount₂.symm, ?_⟩
  · exact hfailure₂'.trans (hfailure₂.symm.trans hok₂)
  · exact hfailure₁'.trans (hfailure₁.symm.trans hok₁)
  · rw [Set.insert_comm] at hs₁'
    exact hs₂.spell_eq hclosed hs₁'

end Turns

/-- A run that no failure ends visits the elements with children, in document order. -/
theorem visits_of_run (h : Host ω) (root : Element) (s : State ω)
    (hok : (run h root s).failure = none) :
    (visits h root root.parents Edits.nil s).failure = none ∧
      (visits h root root.parents Edits.nil s).count = (run h root s).count ∧
      root.rework (visits h root root.parents Edits.nil s).made = (run h root s).made ∧
      (visits h root root.parents Edits.nil s).state.stash = (run h root s).state.stash := by
  obtain ⟨E, hvisits, hmade, -⟩ := element_visits h root root [] Edits.nil s rfl rfl
  rw [show (root.parents.map ([] ++ ·)) = root.parents from List.map_id _] at hvisits
  rw [hvisits]
  cases hroot : (element h root s).failure with
  | some f => simp [run, hroot] at hok
  | none =>
    rcases hreport : report h (element h root s).count (element h root s).state with ⟨f | _, s'⟩
    · simp [run, hroot, hreport] at hok
    · simp only [run, hroot, hreport]
      exact ⟨trivial, trivial, hmade, (report_eq_ok hreport).1.symm⟩

/-- **Lists of siblings are independent.** If two elements are worked on one after the other, and
neither is in an element that the other one's edits replace, they may be worked on in the opposite
order: both succeed again, with the same two counts, and the trees read alike through the stashes.
The same holds of an element that was replaced and is worked on outside the tree. The tree that a
successful run leaves reads as the one that the visits to its elements in any other order leave, with
as many equations. -/
theorem children_independent (h : Host ω) (hrender : h.IsPure) (hlog : h.LogIsPure)
    (root : Element) (s : State ω) (hclosed : s.stash.Closed root) :
    (∀ {p q : List ℕ} {u v : Progress ω Element}, p ≠ q → (root.atPath? p).isSome →
      (root.atPath? q).isSome → ((Edits.nil.set q (alone h root s q).made).track p).isSome →
      InTurn h root s p q u v →
      ∃ v' u', InTurn h root s q p v' u' ∧ u'.count = u.count ∧ v'.count = v.count ∧
        ∀ write, u'.made.spell write u'.state.stash = v.made.spell write v.state.stash) ∧
    (∀ {p q : List ℕ} {u v : Progress ω Edits}, p ≠ q → Visited h root s p q u v →
      ∃ v' u', Visited h root s q p v' u' ∧ u'.count = u.count ∧ v'.count = v.count ∧
        ∀ write, (root.rework u'.made).spell write u'.state.stash =
          (root.rework v.made).spell write v.state.stash) ∧
    (∀ {ps : List (List ℕ)} {w : Progress ω Edits}, ps.Perm root.parents →
      (run h root s).failure = none → visits h root ps Edits.nil s = w →
      w.failure = none ∧ w.count = (run h root s).count ∧
        ∀ write, (root.rework w.made).spell write w.state.stash =
          (run h root s).made.spell write (run h root s).state.stash) := by
  have hw := Host.twin_of_isPure hrender hlog
  refine ⟨?_, fun hpq hvisited => hvisited.swap hw hclosed hpq, ?_⟩
  · intro p q x y hpq ha hb hp hturn
    obtain ⟨a, ha⟩ := Option.isSome_iff_exists.1 ha
    obtain ⟨b, hb⟩ := Option.isSome_iff_exists.1 hb
    obtain ⟨-, u, v, hvisited, rfl, rfl⟩ := (inTurn_iff ha hb hpq).1 hturn
    obtain ⟨v', u', hvisited', hcounts⟩ := hvisited.swap hw hclosed hpq
    exact ⟨_, _, (inTurn_iff hb ha hpq.symm).2 ⟨hp, v', u', hvisited', rfl, rfl⟩, hcounts⟩
  · rintro ps w hperm hok rfl
    obtain ⟨hvisits, hcount, hmade, hstash⟩ := visits_of_run h root s hok
    obtain ⟨hok', hcount', hspell⟩ := visits_perm hw hclosed root.nodup_parents hperm hvisits
    refine ⟨hok', hcount'.trans hcount, fun write => ?_⟩
    rw [hspell, hmade, hstash]

/-- A pair, a pair with a quotation of one in its middle, and another quotation of a pair. -/
def sampleQuotations : Element :=
  Element.node "div" [Stash.image 0, Stash.image 1, Stash.image 2,
    Element.node "blockquote" [Stash.image 0, Stash.image 1], Stash.image 1,
    Element.node "blockquote" [Stash.image 0, Stash.image 1]]

theorem children_independent_sample :
    quoter.IsPure ∧ quoter.LogIsPure ∧ sampleStash.Closed sampleQuotations ∧
      (∃ u v v' u', InTurn quoter sampleQuotations ⟨sampleStash, ()⟩ [] [5] u v ∧
        InTurn quoter sampleQuotations ⟨sampleStash, ()⟩ [5] [] v' u' ∧ u'.count = 2 ∧
        v'.count = 1 ∧
        ∀ write, u'.made.spell write u'.state.stash = v.made.spell write v.state.stash) ∧
      (∃ u v v' u', Visited quoter sampleQuotations ⟨sampleStash, ()⟩ [] [3] u v ∧
        Visited quoter sampleQuotations ⟨sampleStash, ()⟩ [3] [] v' u' ∧ u'.count = 2 ∧
        v'.count = 1 ∧
        ∀ write, (sampleQuotations.rework u'.made).spell write u'.state.stash =
          (sampleQuotations.rework v.made).spell write v.state.stash) ∧
      [[5], [3], []].Perm sampleQuotations.parents ∧
      (run quoter sampleQuotations ⟨sampleStash, ()⟩).failure = none ∧
      ∃ w, visits quoter sampleQuotations [[5], [3], []] Edits.nil ⟨sampleStash, ()⟩ = w ∧
        w.failure = none ∧ w.count = 4 ∧
        ∀ write, (sampleQuotations.rework w.made).spell write w.state.stash =
          (run quoter sampleQuotations ⟨sampleStash, ()⟩).made.spell write
            (run quoter sampleQuotations ⟨sampleStash, ()⟩).state.stash := by
  have hrender : quoter.IsPure := ⟨fun e => (quoter.render e ()).1, fun _ _ => rfl⟩
  have hlog : quoter.LogIsPure := ⟨fun _ _ => .ok (), fun _ _ _ => rfl⟩
  have hclosed : sampleStash.Closed sampleQuotations := by decide +kernel
  obtain ⟨hswap, hvisited, hall⟩ :=
    children_independent quoter hrender hlog sampleQuotations ⟨sampleStash, ()⟩ hclosed
  have hturn : InTurn quoter sampleQuotations ⟨sampleStash, ()⟩ [] [5] _ _ :=
    ⟨rfl, ⟨[6], by decide +kernel, rfl⟩, by decide +kernel, by decide +kernel⟩
  obtain ⟨v, u, hturn', hu, hv, hspell⟩ :=
    hswap (by decide) (by decide) (by decide) (by decide +kernel) hturn
  -- the first quotation is in the middle of a pair, so that it is visited outside the tree
  have hvisit : Visited quoter sampleQuotations ⟨sampleStash, ()⟩ [] [3] _ _ :=
    ⟨rfl, rfl, by decide +kernel, by decide +kernel⟩
  obtain ⟨y, x, hvisit', hx, hy, hspell'⟩ := hvisited (by decide) hvisit
  have hperm : [[5], [3], []].Perm sampleQuotations.parents := by decide
  have hok : (run quoter sampleQuotations ⟨sampleStash, ()⟩).failure = none := by decide +kernel
  obtain ⟨hok', hcount, hspell''⟩ := hall hperm hok rfl
  have hcounts : (run quoter sampleQuotations ⟨sampleStash, ()⟩).count = 4 := by decide +kernel
  exact ⟨hrender, hlog, hclosed,
    ⟨_, _, v, u, hturn, hturn', hu.trans (by decide +kernel), hv.trans (by decide +kernel), hspell⟩,
    ⟨_, _, y, x, hvisit, hvisit', hx.trans (by decide +kernel), hy.trans (by decide +kernel),
      hspell'⟩,
    hperm, hok, _, rfl, hok', hcount.trans hcounts, hspell''⟩

end Pass

end MathPage
