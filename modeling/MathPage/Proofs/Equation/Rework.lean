import MathPage.Proofs.Document.Texts
import MathPage.Proofs.Equation.Tree

/-!
# Edits at the elements of a tree

An element keeps what was done to its children wherever it goes, and what was done to them while it
was already outside the tree is not seen in the tree. The edits of a tree are therefore named by the
paths that its elements had in the beginning.

* `Edits` – edits for the children of the elements of a tree;
* `Element.rework` – the tree after the edits;
* `Edit.moved`, `Edits.track` – where edits move a sibling, and where they move an element of the
  tree;
* `Element.atPath?_rework`, `Element.updateAt_rework` – an element that is tracked is found in the
  reworked tree with all that was done below it, and further edits of its children can be made
  there.

Edits change no position that an element names (`place?_rework`), and with changed texts they are the
edits of the changed elements (`mapTexts_rework`).
-/

namespace MathPage

/-- Edits for the children of the elements of a tree. An element is named by the path that it has in
the tree before the edits. -/
abbrev Edits := List ℕ → List Edit

namespace Edits

/-- Nothing is edited. -/
def nil : Edits := fun _ => []

/-- The edits at and below the element at a path, named from that element. -/
def below (E : Edits) (p : List ℕ) : Edits := fun q => E (p ++ q)

/-- The edits with others at one path. -/
def set (E : Edits) (p : List ℕ) (edits : List Edit) : Edits := Function.update E p edits

variable {E : Edits} {p : List ℕ} {edits : List Edit}

@[simp] theorem below_apply (E : Edits) (p q : List ℕ) : E.below p q = E (p ++ q) := rfl

theorem below_below (E : Edits) (p q : List ℕ) : (E.below p).below q = E.below (p ++ q) := by
  funext r
  rw [below, below, below, List.append_assoc]

@[simp] theorem nil_below (p : List ℕ) : nil.below p = nil := rfl

@[simp] theorem set_self (E : Edits) (p : List ℕ) (edits : List Edit) : E.set p edits p = edits :=
  Function.update_self ..

theorem set_of_ne {q : List ℕ} (h : q ≠ p) : E.set p edits q = E q := Function.update_of_ne h ..

theorem set_cons_below_self (E : Edits) (i : ℕ) (p : List ℕ) (edits : List Edit) :
    (E.set (i :: p) edits).below [i] = (E.below [i]).set p edits := by
  funext q
  by_cases h : q = p
  · subst h
    rw [set_self]
    exact set_self ..
  · rw [set_of_ne h]
    exact set_of_ne fun heq => h (List.cons.inj heq).2

theorem set_cons_below_of_ne {i k : ℕ} (h : k ≠ i) :
    (E.set (i :: p) edits).below [k] = E.below [k] :=
  funext fun _ => set_of_ne fun heq => h (List.cons.inj heq).1

theorem set_below (E : Edits) (p : List ℕ) (edits : List Edit) :
    (E.set p edits).below p = (E.below p).set [] edits := by
  funext q
  cases q with
  | nil => rw [below_apply, List.append_nil, set_self, set_self]
  | cons i q =>
    rw [set_of_ne (List.cons_ne_nil i q), below_apply, below_apply]
    exact set_of_ne (by simp)

theorem set_nil_below (i : ℕ) : (E.set [] edits).below [i] = E.below [i] :=
  funext fun q => set_of_ne (List.cons_ne_nil i q)

end Edits

/-! ### Siblings that are moved -/

/-- Where edits move the sibling at a position; a sibling that is replaced goes nowhere. -/
def Edit.moved : List Edit → ℕ → Option ℕ
  | [], i => some i
  | .insert _ :: edits, i => (Edit.moved edits i).map (· + 1)
  | .keep :: _, 0 => some 0
  | .replace _ :: _, 0 => none
  | .keep :: edits, i + 1 | .replace _ :: edits, i + 1 => (Edit.moved edits i).map (· + 1)

theorem Edit.getElem?_apply {edits : List Edit} {es : List Element} {i j : ℕ}
    (hmoved : Edit.moved edits i = some j) (hi : i < es.length) :
    (Edit.apply edits es)[j]? = es[i]? := by
  fun_induction Edit.apply edits es generalizing i j with
  | case1 es =>
    obtain rfl := Option.some.inj hmoved
    rfl
  | case2 new edits es ih =>
    obtain ⟨k, hk, rfl⟩ := Option.map_eq_some_iff.1 hmoved
    exact ih hk hi
  | case3 edits e es ih =>
    cases i with
    | zero =>
      obtain rfl := Option.some.inj hmoved
      rfl
    | succ i =>
      obtain ⟨k, hk, rfl⟩ := Option.map_eq_some_iff.1 hmoved
      exact ih hk (Nat.lt_of_succ_lt_succ hi)
  | case4 new edits e es ih =>
    cases i with
    | zero => cases hmoved
    | succ i =>
      obtain ⟨k, hk, rfl⟩ := Option.map_eq_some_iff.1 hmoved
      exact ih hk (Nat.lt_of_succ_lt_succ hi)
  | case5 | case6 => cases hi

/-- A sibling may be changed before it is moved or afterwards. -/
theorem Edit.modify_apply {edits : List Edit} {es : List Element} {i j : ℕ} (f : Element → Element)
    (hmoved : Edit.moved edits i = some j) (hi : i < es.length) :
    (Edit.apply edits es).modify j f = Edit.apply edits (es.modify i f) := by
  fun_induction Edit.apply edits es generalizing i j with
  | case1 es =>
    obtain rfl := Option.some.inj hmoved
    rfl
  | case2 new edits es ih =>
    obtain ⟨k, hk, rfl⟩ := Option.map_eq_some_iff.1 hmoved
    exact congrArg (new :: ·) (ih hk hi)
  | case3 edits e es ih =>
    cases i with
    | zero =>
      obtain rfl := Option.some.inj hmoved
      rfl
    | succ i =>
      obtain ⟨k, hk, rfl⟩ := Option.map_eq_some_iff.1 hmoved
      exact congrArg (e :: ·) (ih hk (Nat.lt_of_succ_lt_succ hi))
  | case4 new edits e es ih =>
    cases i with
    | zero => cases hmoved
    | succ i =>
      obtain ⟨k, hk, rfl⟩ := Option.map_eq_some_iff.1 hmoved
      exact congrArg (new :: ·) (ih hk (Nat.lt_of_succ_lt_succ hi))
  | case5 | case6 => cases hi

/-- Where the edits move an element of the tree; it goes nowhere if it is in an element that was
replaced. -/
def Edits.track (E : Edits) : List ℕ → Option (List ℕ)
  | [] => some []
  | i :: p => (Edit.moved (E []) i).bind fun j => (track (E.below [i]) p).map (j :: ·)

@[simp] theorem Edits.track_nil (p : List ℕ) : Edits.nil.track p = some p := by
  induction p with
  | nil => rfl
  | cons i p ih => rw [track, nil_below, ih, nil, Edit.moved, Option.bind_some, Option.map_some]

theorem Edits.track_cons {E : Edits} {i : ℕ} {p r : List ℕ} :
    E.track (i :: p) = some r ↔
      ∃ j q, Edit.moved (E []) i = some j ∧ (E.below [i]).track p = some q ∧ j :: q = r := by
  simp only [track, Option.bind_eq_some_iff, Option.map_eq_some_iff]
  constructor
  · rintro ⟨j, hj, q, hq, rfl⟩
    exact ⟨j, q, hj, hq, rfl⟩
  · rintro ⟨j, q, hj, hq, rfl⟩
    exact ⟨j, hj, q, hq, rfl⟩

namespace Element

/-! ### Reworked trees -/

mutual

/-- A tree after edits of the children of its elements. -/
def rework (E : Edits) : Element → Element
  | ⟨tag, attributes, text, literal, children, tail⟩ =>
    ⟨tag, attributes, text, literal, Edit.apply (E []) (reworkAll E 0 children), tail⟩

/-- The same for the children of an element, from the one at a given position on. -/
def reworkAll (E : Edits) : ℕ → List Element → List Element
  | _, [] => []
  | i, e :: es => rework (E.below [i]) e :: reworkAll E (i + 1) es

end

theorem rework_eq (E : Edits) (e : Element) :
    e.rework E = { e with children := Edit.apply (E []) (reworkAll E 0 e.children) } := by
  cases e
  rw [rework]

@[simp] theorem rework_children (E : Edits) (e : Element) :
    (e.rework E).children = Edit.apply (E []) (reworkAll E 0 e.children) := by
  rw [rework_eq]

@[simp] theorem length_reworkAll (E : Edits) (k : ℕ) (es : List Element) :
    (reworkAll E k es).length = es.length := by
  induction es generalizing k with
  | nil => rfl
  | cons e es ih => rw [reworkAll, List.length_cons, ih, List.length_cons]

theorem getElem?_reworkAll (E : Edits) (k i : ℕ) (es : List Element) :
    (reworkAll E k es)[i]? = es[i]?.map (rework (E.below [k + i])) := by
  induction es generalizing k i with
  | nil => rfl
  | cons e es ih =>
    cases i with
    | zero => rfl
    | succ i =>
      rw [reworkAll, List.getElem?_cons_succ, ih, List.getElem?_cons_succ, Nat.succ_add_eq_add_succ]

mutual

@[simp] theorem rework_nil : ∀ e : Element, e.rework Edits.nil = e
  | ⟨tag, attributes, text, literal, children, tail⟩ => by
    rw [rework, reworkAll_nil 0 children, Edits.nil, Edit.apply]

@[simp] theorem reworkAll_nil : ∀ (k : ℕ) (es : List Element), reworkAll Edits.nil k es = es
  | _, [] => rfl
  | k, e :: es => by rw [reworkAll, Edits.nil_below, rework_nil e, reworkAll_nil (k + 1) es]

end

/-- Only the edits below the siblings count. -/
theorem reworkAll_congr {E E' : Edits} {k : ℕ} {es : List Element}
    (h : ∀ i < es.length, E.below [k + i] = E'.below [k + i]) :
    reworkAll E k es = reworkAll E' k es := by
  refine List.ext_getElem? fun i => ?_
  rw [getElem?_reworkAll, getElem?_reworkAll]
  by_cases hi : i < es.length
  · rw [h i hi]
  · rw [List.getElem?_eq_none (Nat.not_lt.1 hi)]
    rfl

/-- The tree with other edits at its root. -/
theorem rework_set_nil (E : Edits) (edits : List Edit) (e : Element) :
    e.rework (E.set [] edits) =
      { e with children := Edit.apply edits (reworkAll E 0 e.children) } := by
  rw [rework_eq, Edits.set_self, reworkAll_congr fun _ _ => Edits.set_nil_below _]

/-- Edits change no position that an element names, if one without children has no edits. -/
theorem place?_rework {E : Edits} {e : Element} (h : e.children = [] → E [] = []) :
    Stash.place? (e.rework E) = Stash.place? e := by
  by_cases hnil : e.children = []
  · obtain ⟨tag, attributes, text, literal, children, tail⟩ := e
    obtain rfl : children = [] := hnil
    rw [rework, reworkAll, h rfl, Edit.apply]
  · have hne : reworkAll E 0 e.children ≠ [] := by
      rwa [← List.length_pos_iff, length_reworkAll, List.length_pos_iff]
    rw [Stash.place?_eq_none_of_children hnil, Stash.place?_eq_none_of_children]
    rw [rework_children]
    exact Edit.apply_ne_nil _ hne

/-! ### Elements of a reworked tree -/

/-- An element that is tracked is in the reworked tree, with what was done below it. -/
theorem atPath?_rework {E : Edits} {p q : List ℕ} {e x : Element} (hx : e.atPath? p = some x)
    (hq : E.track p = some q) : (e.rework E).atPath? q = some (x.rework (E.below p)) := by
  induction p generalizing E e q with
  | nil =>
    cases hx
    cases hq
    rfl
  | cons i p ih =>
    obtain ⟨c, hc, hx'⟩ := atPath?_cons.1 hx
    obtain ⟨j, q, hj, hq', rfl⟩ := Edits.track_cons.1 hq
    obtain ⟨hi, -⟩ := List.getElem?_eq_some_iff.1 hc
    refine atPath?_cons.2 ⟨c.rework (E.below [i]), ?_, ?_⟩
    · rw [rework_children, Edit.getElem?_apply hj (by rwa [length_reworkAll]), getElem?_reworkAll,
        hc, Nat.zero_add]
      rfl
    · rw [ih hx' hq', Edits.below_below]
      rfl

theorem reworkAll_set_cons {E : Edits} {edits : List Edit} {i : ℕ} {p : List ℕ}
    {es : List Element} {c : Element} (hc : es[i]? = some c) {f : Element → Element}
    (hf : f (c.rework (E.below [i])) = c.rework ((E.below [i]).set p edits)) :
    reworkAll (E.set (i :: p) edits) 0 es = (reworkAll E 0 es).modify i f := by
  refine List.ext_getElem? fun k => ?_
  rw [getElem?_reworkAll, List.getElem?_modify, getElem?_reworkAll, Nat.zero_add]
  by_cases hk : i = k
  · subst hk
    simp only [hc, Edits.set_cons_below_self, if_true, Option.map_some, Option.map_eq_map, hf]
  · simp only [Edits.set_cons_below_of_ne (Ne.symm hk), hk, if_false, Option.map_eq_map,
      Option.map_id']

/-- Edits of the children of an element that is tracked may be made in the reworked tree. -/
theorem updateAt_rework {E : Edits} {p q : List ℕ} {e x : Element} (hx : e.atPath? p = some x)
    (hq : E.track p = some q) (hp : E p = []) (edits : List Edit) :
    (e.rework E).updateAt (fun y => { y with children := Edit.apply edits y.children }) q =
      e.rework (E.set p edits) := by
  induction p generalizing E e q with
  | nil =>
    cases hq
    rw [updateAt, rework_children, rework_eq, rework_set_nil, hp, Edit.apply]
  | cons i p ih =>
    obtain ⟨c, hc, hx'⟩ := atPath?_cons.1 hx
    obtain ⟨j, q, hj, hq', rfl⟩ := Edits.track_cons.1 hq
    obtain ⟨hi, -⟩ := List.getElem?_eq_some_iff.1 hc
    have hbelow := ih (E := E.below [i]) hx' hq' hp
    rw [updateAt, rework_children, Edit.modify_apply _ hj (by rwa [length_reworkAll]),
      ← reworkAll_set_cons hc hbelow, rework_eq, rework_eq,
      Edits.set_of_ne (List.cons_ne_nil i p).symm]

/-! ### Changed texts -/

mutual

/-- A reworked tree with changed texts is the changed tree, reworked with changed elements. -/
theorem mapTexts_rework (f : Text → Text) : ∀ (E : Edits) (e : Element),
    (e.rework E).mapTexts f =
      (e.mapTexts f).rework fun p => (E p).map (Edit.map (mapTexts f))
  | E, ⟨tag, attributes, text, literal, children, tail⟩ => by
    simp only [mapTexts_eq, rework, reworkAll_map f E 0 children, Edit.apply_map]

theorem reworkAll_map (f : Text → Text) : ∀ (E : Edits) (k : ℕ) (es : List Element),
    reworkAll (fun p => (E p).map (Edit.map (mapTexts f))) k (es.map (mapTexts f)) =
      (reworkAll E k es).map (mapTexts f)
  | _, _, [] => rfl
  | E, k, e :: es => by
    rw [reworkAll, List.map_cons, List.map_cons, mapTexts_rework f (E.below [k]) e, reworkAll,
      reworkAll_map f E (k + 1) es]
    rfl

end

end Element

end MathPage
