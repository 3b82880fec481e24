import MathPage.Proofs.Document.Tree
import MathPage.Proofs.Equation.Siblings

/-!
# The pass over a tree

* `Pass.Worked` – a tree that a pass works on to its end: the elements below are those of the edited
  lists, and the answers of the renderer come in document order;
* `Edit.map` – an edit with a changed element;
* `Stash.places` – the positions that several elements name.

A pass that no failure ends does so (`element_worked`). It changes no position that an element names
(`Worked.place?`), and it makes an image for every answer, each at most once
(`Worked.count_places`).
-/

namespace MathPage

open Stash

/-! ### Edits -/

theorem Edit.length_le_apply (edits : List Edit) (es : List Element) :
    es.length ≤ (Edit.apply edits es).length := by
  fun_induction Edit.apply edits es with
  | case1 => exact le_rfl
  | case2 _ _ _ ih => exact Nat.le_succ_of_le ih
  | case3 _ _ _ ih | case4 _ _ _ _ ih => exact Nat.succ_le_succ ih
  | case5 | case6 => exact Nat.zero_le _

/-- Edits leave no element without children that has some. -/
theorem Edit.apply_ne_nil (edits : List Edit) {es : List Element} (h : es ≠ []) :
    Edit.apply edits es ≠ [] := by
  have hle := Edit.length_le_apply edits es
  have hpos := List.length_pos_iff.2 h
  exact List.length_pos_iff.1 (hpos.trans_le hle)

/-- How many siblings edits are for. -/
def Edit.reach : List Edit → ℕ
  | [] => 0
  | .insert _ :: edits => Edit.reach edits
  | .keep :: edits | .replace _ :: edits => Edit.reach edits + 1

@[simp] theorem Edit.reach_append (edits more : List Edit) :
    Edit.reach (edits ++ more) = Edit.reach edits + Edit.reach more := by
  fun_induction Edit.reach edits with
  | case1 => exact (Nat.zero_add _).symm
  | case2 _ _ ih => exact ih
  | case3 _ ih | case4 _ _ ih => simp only [List.cons_append, Edit.reach, ih, Nat.add_right_comm]

/-- Edits of a first part of a list, and edits of the rest. -/
theorem Edit.apply_append {edits : List Edit} {es : List Element}
    (hreach : Edit.reach edits = es.length) (more : List Edit) (rest : List Element) :
    Edit.apply (edits ++ more) (es ++ rest) = Edit.apply edits es ++ Edit.apply more rest := by
  fun_induction Edit.apply edits es with
  | case1 es =>
    obtain rfl := List.length_eq_zero_iff.1 hreach.symm
    rfl
  | case2 n edits es ih =>
    have hrest := ih hreach
    simp only [List.cons_append, Edit.apply, hrest]
  | case3 edits e es ih | case4 n edits e es ih =>
    have hrest := ih (Nat.succ.inj hreach)
    simp only [List.cons_append, Edit.apply, hrest]
  | case5 | case6 => cases hreach

/-- An edit with a changed element. -/
def Edit.map (f : Element → Element) : Edit → Edit
  | .keep => .keep
  | .insert e => .insert (f e)
  | .replace e => .replace (f e)

/-- Changed edits of changed siblings. -/
theorem Edit.apply_map (f : Element → Element) (edits : List Edit) (es : List Element) :
    Edit.apply (edits.map (Edit.map f)) (es.map f) = (Edit.apply edits es).map f := by
  fun_induction Edit.apply edits es with
  | case1 es => rfl
  | case2 new edits es ih => exact congrArg (f new :: ·) ih
  | case3 edits e es ih => exact congrArg (f e :: ·) ih
  | case4 new edits e es ih => exact congrArg (f new :: ·) ih
  | case5 edits ih => exact ih
  | case6 new edits ih => exact ih

/-! ### Positions -/

/-- The positions that several elements name, in their order. -/
def Stash.places (es : List Element) : List ℕ := es.filterMap place?

@[simp] theorem Stash.places_nil : places [] = [] := rfl

@[simp] theorem Stash.places_append (es es' : List Element) :
    places (es ++ es') = places es ++ places es' := List.filterMap_append

theorem Stash.places_within (e : Element) :
    places e.within = (place? e).toList ++ places (Element.withinAll e.children) := by
  rw [Element.within_eq]
  cases hp : place? e with
  | none => exact List.filterMap_cons_none hp
  | some n => exact List.filterMap_cons_some hp

@[simp] theorem Stash.places_within_image (n : ℕ) : places (Stash.image n).within = [n] := by
  rw [Element.within_eq, image_children, Element.withinAll_nil, places, List.filterMap_cons,
    place?_image]
  rfl

theorem Stash.mem_places {es : List Element} {n : ℕ} :
    n ∈ places es ↔ ∃ e ∈ es, place? e = some n := List.mem_filterMap

/-- The elements that edits bring in, in their order. -/
def Edit.added : List Edit → List Element
  | [] => []
  | .keep :: edits => Edit.added edits
  | .insert new :: edits | .replace new :: edits => new :: Edit.added edits

theorem Edit.mem_apply {edits : List Edit} {es : List Element} {x : Element}
    (hx : x ∈ Edit.apply edits es) : x ∈ Edit.added edits ∨ x ∈ es := by
  fun_induction Edit.apply edits es with
  | case1 => exact Or.inr hx
  | case5 _ ih => exact ih hx
  | case6 _ _ ih =>
    rcases ih hx with hx | hx
    · exact Or.inl (List.mem_cons_of_mem _ hx)
    · cases hx
  | case2 _ _ _ ih =>
    rcases List.mem_cons.1 hx with rfl | hx
    · exact Or.inl List.mem_cons_self
    · exact (ih hx).imp_left (List.mem_cons_of_mem _)
  | case3 _ _ _ ih =>
    rcases List.mem_cons.1 hx with rfl | hx
    · exact Or.inr List.mem_cons_self
    · exact (ih hx).imp_right (List.mem_cons_of_mem _)
  | case4 _ _ _ _ ih =>
    rcases List.mem_cons.1 hx with rfl | hx
    · exact Or.inl List.mem_cons_self
    · exact (ih hx).imp (List.mem_cons_of_mem _) (List.mem_cons_of_mem _)

/-- Every element of an edited list was there or was brought in, each at most once. -/
theorem Edit.count_places_apply (n : ℕ) (edits : List Edit) (es : List Element) :
    (places (Element.withinAll (Edit.apply edits es))).count n ≤
      (places (Element.withinAll (Edit.added edits))).count n +
        (places (Element.withinAll es)).count n := by
  fun_induction Edit.apply edits es with
  | case1 => exact Nat.le_add_left _ _
  | case5 _ ih => exact ih
  | case2 _ _ _ ih | case3 _ _ _ ih | case4 _ _ _ _ ih | case6 _ _ ih =>
    simp only [Edit.added, Element.withinAll_cons, places_append, List.count_append]
    omega

namespace Pass

variable {ω : Type} {h : Host ω}

/-- Every image that the edits bring in is made for an answer. -/
theorem Edited.places_added {es : List Element} {s t : State ω} {edits : List Edit}
    {answers : List Answer} (he : Edited h es s edits answers t) :
    places (Element.withinAll (Edit.added edits)) =
      List.range' s.stash.entries.length answers.length := by
  induction he with
  | nil => rfl
  | plain _ _ ih => exact ih
  | insert _ hrendered _ hstash _ _ ih | replace _ hrendered _ _ hstash _ _ ih =>
    rw [hrendered.length_eq hstash] at ih
    simp only [Edit.added, Element.withinAll_cons, places_append, places_within_image, ih,
      List.length_cons, List.range'_succ, List.singleton_append]

theorem Edited.exists_eq_image {es : List Element} {s t : State ω} {edits : List Edit}
    {answers : List Answer} (he : Edited h es s edits answers t) {e : Element}
    (hmem : e ∈ Edit.added edits) : ∃ n, e = Stash.image n := by
  induction he with
  | nil => cases hmem
  | plain _ _ ih => exact ih hmem
  | insert _ _ _ _ _ _ ih | replace _ _ _ _ _ _ _ ih =>
    rcases List.mem_cons.1 hmem with rfl | hmem
    · exact ⟨_, rfl⟩
    · exact ih hmem

/-- A list that is edited to its end is edited as a whole. -/
theorem Edited.reach {es : List Element} {s t : State ω} {edits : List Edit}
    {answers : List Answer} (he : Edited h es s edits answers t) :
    Edit.reach edits = es.length := by
  induction he with
  | nil => rfl
  | plain _ _ ih | insert _ _ _ _ _ _ ih | replace _ _ _ _ _ _ _ ih =>
    simp only [Edit.reach, ih, List.length_cons]

/-! ### Whole trees -/

mutual

/-- A tree that is worked on to its end, with the answers of the renderer in document order. -/
inductive Worked (h : Host ω) : Element → State ω → Element → List Answer → State ω → Prop
  | mk {tag : Text} {attributes : List (Text × Option Text)} {text : Option Text} {literal : Bool}
      {es made : List Element} {tail : Option Text} {s s₁ t : State ω} {edits : List Edit}
      {as bs : List Answer} (hedited : Edited h es s edits as s₁)
      (hbelow : WorkedAll h es s₁ made bs t) :
      Worked h ⟨tag, attributes, text, literal, es, tail⟩ s
        ⟨tag, attributes, text, literal, Edit.apply edits made, tail⟩ (as ++ bs) t

/-- The same for what is below each of several elements. -/
inductive WorkedAll (h : Host ω) :
    List Element → State ω → List Element → List Answer → State ω → Prop
  | nil (s : State ω) : WorkedAll h [] s [] [] s
  | cons {e made : Element} {es mades : List Element} {s s₁ t : State ω} {as bs : List Answer}
      (hfirst : Worked h e s made as s₁) (hrest : WorkedAll h es s₁ mades bs t) :
      WorkedAll h (e :: es) s (made :: mades) (as ++ bs) t

end

mutual

/-- A pass that no failure ends works on the whole tree. -/
theorem element_worked (h : Host ω) : ∀ (e : Element) (s : State ω),
    (element h e s).failure = none →
    ∃ answers, Worked h e s (element h e s).made answers (element h e s).state ∧
      (element h e s).count = answers.length
  | ⟨tag, attributes, text, literal, es, tail⟩, s, hok => by
    cases hscan : (scan h es s).failure with
    | some f => simp [element, hscan] at hok
    | none =>
      obtain ⟨as, hedited, hcount⟩ := edited_of_scan h es s hscan
      have hok' : (siblings h es (scan h es s).state).failure = none := by
        simpa [element, hscan] using hok
      obtain ⟨bs, hbelow, hcount'⟩ := siblings_worked h es (scan h es s).state hok'
      simp only [element, hscan]
      refine ⟨as ++ bs, .mk hedited hbelow, ?_⟩
      rw [hcount, hcount', List.length_append]

/-- The same for what is below each of several elements. -/
theorem siblings_worked (h : Host ω) : ∀ (es : List Element) (s : State ω),
    (siblings h es s).failure = none →
    ∃ answers, WorkedAll h es s (siblings h es s).made answers (siblings h es s).state ∧
      (siblings h es s).count = answers.length
  | [], s, _ => ⟨[], .nil s, rfl⟩
  | e :: es, s, hok => by
    cases hfirst : (element h e s).failure with
    | some f => simp [siblings, hfirst] at hok
    | none =>
      obtain ⟨as, he, hcount⟩ := element_worked h e s hfirst
      have hok' : (siblings h es (element h e s).state).failure = none := by
        simpa [siblings, hfirst] using hok
      obtain ⟨bs, hes, hcount'⟩ := siblings_worked h es (element h e s).state hok'
      simp only [siblings, hfirst]
      refine ⟨as ++ bs, .cons he hes, ?_⟩
      rw [hcount, hcount', List.length_append]

end

/-- A pass over a tree changes no position that the tree itself names. -/
theorem Worked.place? {e made : Element} {s t : State ω} {answers : List Answer}
    (hw : Worked h e s made answers t) : Stash.place? made = Stash.place? e := by
  cases hw with
  | @mk tag attributes text literal es made tail s s₁ t edits as bs hedited hbelow =>
    cases hbelow with
    | nil =>
      cases hedited
      rfl
    | cons =>
      rw [place?_eq_none_of_children (Edit.apply_ne_nil edits (List.cons_ne_nil _ _)),
        place?_eq_none_of_children (List.cons_ne_nil _ _)]

/-- The elements name the same positions, one by one. -/
abbrev SamePlaces : List Element → List Element → Prop :=
  List.Forall₂ fun e e' => Stash.place? e' = Stash.place? e

mutual

theorem Worked.ran {e made : Element} {s t : State ω} {answers : List Answer} :
    Worked h e s made answers t → Ran h s answers t
  | .mk hedited hbelow => hedited.ran.trans hbelow.ran

theorem WorkedAll.ran {es mades : List Element} {s t : State ω} {answers : List Answer} :
    WorkedAll h es s mades answers t → Ran h s answers t
  | .nil s => .refl s
  | .cons hfirst hrest => hfirst.ran.trans hrest.ran

end

theorem WorkedAll.samePlaces {es mades : List Element} {s t : State ω} {answers : List Answer}
    (hw : WorkedAll h es s mades answers t) : SamePlaces es mades := by
  induction es generalizing mades s answers with
  | nil =>
    cases hw
    exact .nil
  | cons e es ih =>
    cases hw with
    | cons hfirst hrest => exact .cons hfirst.place? (ih hrest)

/-- The positions of the answers of two runs, one after the other. -/
theorem Ran.range'_append {as bs : List Answer} {s s₁ : State ω} (hr : Ran h s as s₁) :
    List.range' s.stash.entries.length (as ++ bs).length =
      List.range' s.stash.entries.length as.length ++
        List.range' s₁.stash.entries.length bs.length := by
  rw [hr.length, List.range'_append_1, List.length_append]

mutual

/-- Every image of a tree is made for an answer, and every other element of the tree that names a
position was there, each at most once. -/
theorem Worked.count_places (n : ℕ) {e made : Element} {s t : State ω} {answers : List Answer} :
    Worked h e s made answers t → (places made.within).count n ≤
      (List.range' s.stash.entries.length answers.length).count n + (places e.within).count n
  | hw@(.mk hedited hbelow) => by
    have hrest := hbelow.count_places n
    rw [places_within, hw.place?, places_within, hedited.ran.range'_append]
    simp only [List.count_append]
    refine (Nat.add_le_add_left (Edit.count_places_apply n _ _) _).trans ?_
    rw [hedited.places_added]
    omega

/-- The same for what is below each of several elements. -/
theorem WorkedAll.count_places (n : ℕ) {es mades : List Element} {s t : State ω}
    {answers : List Answer} :
    WorkedAll h es s mades answers t → (places (Element.withinAll mades)).count n ≤
      (List.range' s.stash.entries.length answers.length).count n +
        (places (Element.withinAll es)).count n
  | .nil s => Nat.zero_le _
  | .cons hfirst hrest => by
    have hfirst' := hfirst.count_places n
    have hrest' := hrest.count_places n
    rw [hfirst.ran.range'_append]
    simp only [Element.withinAll_cons, places_append, List.count_append]
    omega

end

/-- The stash that a pass leaves covers the tree that it leaves. -/
theorem Worked.covers {e made : Element} {s t : State ω} {answers : List Answer}
    (hw : Worked h e s made answers t) (hcovers : ∀ x ∈ e.within, s.stash.Covers x) :
    ∀ x ∈ made.within, t.stash.Covers x := by
  intro x hx n hn
  have hpos : 0 < (places made.within).count n :=
    List.count_pos_iff.2 (mem_places.2 ⟨x, hx, hn⟩)
  have hlen := hw.ran.length
  rcases Nat.add_pos_iff_pos_or_pos.1 (hpos.trans_le (hw.count_places n)) with hnew | hold
  · have := List.mem_range'_1.1 (List.count_pos_iff.1 hnew)
    omega
  · obtain ⟨y, hy, hp⟩ := mem_places.1 (List.count_pos_iff.1 hold)
    have := hcovers y hy n hp
    omega

/-- No image is made twice in a tree whose own elements name positions of the stash only. -/
theorem Worked.nodup_places {e made : Element} {s t : State ω} {answers : List Answer}
    (hw : Worked h e s made answers t) (hcovers : ∀ x ∈ e.within, s.stash.Covers x) :
    ((places made.within).filter (s.stash.entries.length ≤ ·)).Nodup := by
  rw [List.nodup_iff_count_le_one]
  intro n
  by_cases hn : s.stash.entries.length ≤ n
  · have hold : (places e.within).count n = 0 := List.count_eq_zero.2 fun hmem => by
      obtain ⟨x, hx, hp⟩ := mem_places.1 hmem
      exact absurd (hcovers x hx n hp) (Nat.not_lt.2 hn)
    have hnew : (List.range' s.stash.entries.length answers.length).count n ≤ 1 :=
      List.nodup_iff_count_le_one.1 (List.nodup_range' 1) n
    rw [List.count_filter (by simpa using hn)]
    have := hw.count_places n
    omega
  · rw [List.count_eq_zero.2 fun hmem => hn (by simpa using List.of_mem_filter hmem)]
    exact Nat.zero_le _

end Pass

end MathPage
