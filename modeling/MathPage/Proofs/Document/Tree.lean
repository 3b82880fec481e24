import MathPage.Document.Element
import Mathlib.Data.List.Forall2

/-!
# The elements of a tree

* `Element.within`, `Element.withinAll` – a tree as the list of its elements, in document order;
* `Element.Redrawn` – two trees of the same shape that differ only in some elements: an element of
  the one kind gives way to another one as a whole, and any other element keeps all that is its own.

The element at a path is one of the tree (`mem_within_of_atPath?`), and paths are followed one after the
other (`atPath?_append`).
-/

namespace MathPage.Element

mutual

/-- An element and all elements below it, in document order. -/
def within : Element → List Element
  | ⟨tag, attributes, text, literal, children, tail⟩ =>
    ⟨tag, attributes, text, literal, children, tail⟩ :: withinAll children

/-- Several elements and all elements below them, in document order. -/
def withinAll : List Element → List Element
  | [] => []
  | e :: es => within e ++ withinAll es

end

theorem within_eq (e : Element) : e.within = e :: withinAll e.children := by
  cases e; rfl

@[simp] theorem withinAll_nil : withinAll [] = [] := rfl

@[simp] theorem withinAll_cons (e : Element) (es : List Element) :
    withinAll (e :: es) = e.within ++ withinAll es := rfl

theorem withinAll_eq_flatMap (es : List Element) : withinAll es = es.flatMap within := by
  induction es with
  | nil => rfl
  | cons e es ih => rw [withinAll_cons, ih, List.flatMap_cons]

theorem self_mem_within (e : Element) : e ∈ e.within := by
  rw [within_eq]
  exact List.mem_cons_self

theorem mem_withinAll {es : List Element} {x : Element} :
    x ∈ withinAll es ↔ ∃ e ∈ es, x ∈ e.within := by
  rw [withinAll_eq_flatMap, List.mem_flatMap]

theorem mem_withinAll_of_mem {es : List Element} {e : Element} (h : e ∈ es) : e ∈ withinAll es :=
  mem_withinAll.2 ⟨e, h, e.self_mem_within⟩

mutual

/-- The elements of a part of a tree are elements of the tree. -/
theorem mem_within_trans {e x : Element} (hx : x ∈ e.within) :
    ∀ root : Element, e ∈ root.within → x ∈ root.within
  | ⟨tag, attributes, text, literal, children, tail⟩, he => by
    rw [within_eq] at he ⊢
    rcases List.mem_cons.1 he with rfl | he
    · rwa [← within_eq]
    · exact List.mem_cons_of_mem _ (mem_withinAll_trans hx children he)

theorem mem_withinAll_trans {e x : Element} (hx : x ∈ e.within) :
    ∀ es : List Element, e ∈ withinAll es → x ∈ withinAll es
  | [], he => absurd he List.not_mem_nil
  | c :: es, he => by
    rw [withinAll_cons] at he ⊢
    rcases List.mem_append.1 he with he | he
    · exact List.mem_append_left _ (mem_within_trans hx c he)
    · exact List.mem_append_right _ (mem_withinAll_trans hx es he)

end

/-- The children of an element of a tree are elements of the tree. -/
theorem mem_within_of_mem_children {root e x : Element} (he : e ∈ root.within)
    (hx : x ∈ e.children) : x ∈ root.within := by
  refine mem_within_trans ?_ root he
  rw [within_eq]
  exact List.mem_cons_of_mem _ (mem_withinAll_of_mem hx)

/-! ### Elements at paths -/

theorem atPath?_cons {i : ℕ} {p : List ℕ} {e x : Element} :
    e.atPath? (i :: p) = some x ↔ ∃ c, e.children[i]? = some c ∧ c.atPath? p = some x := by
  rw [atPath?]
  cases e.children[i]? <;> simp

theorem atPath?_append (p q : List ℕ) (e : Element) :
    e.atPath? (p ++ q) = (e.atPath? p).bind (atPath? q) := by
  induction p generalizing e with
  | nil => rfl
  | cons i p ih =>
    rw [List.cons_append, atPath?, atPath?]
    cases e.children[i]? with
    | none => rfl
    | some c => exact ih c

theorem mem_within_of_atPath? {p : List ℕ} {e x : Element} (h : e.atPath? p = some x) :
    x ∈ e.within := by
  induction p generalizing e with
  | nil =>
    cases h
    exact self_mem_within _
  | cons i p ih =>
    obtain ⟨c, hc, hx⟩ := atPath?_cons.1 h
    have hmem : c ∈ e.within :=
      mem_within_of_mem_children (self_mem_within e) (List.mem_of_getElem? hc)
    exact mem_within_trans (ih hx) e hmem

/-- Only the element at the path is changed. -/
theorem updateAt_congr {f g : Element → Element} {p : List ℕ} {e x : Element}
    (hx : e.atPath? p = some x) (hfg : f x = g x) : e.updateAt f p = e.updateAt g p := by
  induction p generalizing e with
  | nil =>
    cases hx
    exact hfg
  | cons i p ih =>
    obtain ⟨c, hc, hx'⟩ := atPath?_cons.1 hx
    rw [updateAt, updateAt, List.modify_eq_set, List.modify_eq_set, hc]
    exact congrArg (fun y => { e with children := e.children.set i y }) (ih hx')

/-! ### Redrawn trees -/

mutual

/-- The second tree is the first one with other elements in the place of those of a kind `I`. -/
inductive Redrawn (I : Element → Prop) (R : Element → Element → Prop) : Element → Element → Prop
  | swap {a b : Element} (ha : I a) (hab : R a b) : Redrawn I R a b
  | keep {tag : Text} {attributes : List (Text × Option Text)} {text : Option Text} {literal : Bool}
      {as bs : List Element} {tail : Option Text}
      (ha : ¬ I ⟨tag, attributes, text, literal, as, tail⟩) (hab : RedrawnAll I R as bs) :
      Redrawn I R ⟨tag, attributes, text, literal, as, tail⟩
        ⟨tag, attributes, text, literal, bs, tail⟩

/-- The same for lists of siblings. -/
inductive RedrawnAll (I : Element → Prop) (R : Element → Element → Prop) :
    List Element → List Element → Prop
  | nil : RedrawnAll I R [] []
  | cons {a b : Element} {as bs : List Element} (hab : Redrawn I R a b)
      (hrest : RedrawnAll I R as bs) : RedrawnAll I R (a :: as) (b :: bs)

end

mutual

/-- A weaker relation between the elements that are changed. -/
theorem Redrawn.mono {I : Element → Prop} {R R' : Element → Element → Prop}
    (hR : ∀ x y, R x y → R' x y) {a b : Element} : Redrawn I R a b → Redrawn I R' a b
  | .swap ha hab => .swap ha (hR a b hab)
  | .keep ha hab => .keep ha (hab.mono hR)

theorem RedrawnAll.mono {I : Element → Prop} {R R' : Element → Element → Prop}
    (hR : ∀ x y, R x y → R' x y) {as bs : List Element} : RedrawnAll I R as bs →
      RedrawnAll I R' as bs
  | .nil => .nil
  | .cons hab hrest => .cons (hab.mono hR) (hrest.mono hR)

end

end MathPage.Element
