import MathPage.Proofs.Document.Placeholder
import MathPage.Proofs.Document.Tree

/-!
# The texts of a tree

* `Element.mapTexts` – a tree with all its texts changed in the same way;
* `Element.raise` – a tree whose placeholders name positions further on;
* `Element.spell` – a tree as it reads through a stash;
* `Stash.Closed` – a stash with a piece for every placeholder of a tree.

An element names a position exactly if the raised one names the raised position (`place?_raise`). A
tree without dangling placeholders reads the same when further pieces are added to the stash
(`spell_of_extends`).
-/

namespace MathPage

namespace Element

/-- The texts of an element itself: its text, its tail, and the values of its attributes. -/
def ownTexts (e : Element) : List Text :=
  e.text.toList ++ e.tail.toList ++ e.attributes.filterMap Prod.snd

mutual

/-- A tree with all its texts changed. -/
def mapTexts (f : Text → Text) : Element → Element
  | ⟨tag, attributes, text, literal, children, tail⟩ =>
    ⟨tag, attributes.map fun (n, v) => (n, v.map f), text.map f, literal, mapTextsAll f children,
      tail.map f⟩

/-- The same for several elements. -/
def mapTextsAll (f : Text → Text) : List Element → List Element
  | [] => []
  | e :: es => mapTexts f e :: mapTextsAll f es

end

theorem mapTextsAll_eq_map (f : Text → Text) (es : List Element) :
    mapTextsAll f es = es.map (mapTexts f) := by
  induction es with
  | nil => rfl
  | cons e es ih => rw [mapTextsAll, ih, List.map_cons]

theorem mapTexts_eq (f : Text → Text) (e : Element) :
    e.mapTexts f = { e with
      attributes := e.attributes.map fun (n, v) => (n, v.map f)
      text := e.text.map f
      children := e.children.map (mapTexts f)
      tail := e.tail.map f } := by
  rcases e with ⟨tag, attributes, text, literal, children, tail⟩
  rw [mapTexts, mapTextsAll_eq_map]

@[simp] theorem mapTexts_children (f : Text → Text) (e : Element) :
    (e.mapTexts f).children = e.children.map (mapTexts f) := by
  rw [mapTexts_eq]

@[simp] theorem mapTexts_text (f : Text → Text) (e : Element) :
    (e.mapTexts f).text = e.text.map f := by
  rw [mapTexts_eq]

@[simp] theorem mapTexts_hasTag (f : Text → Text) (e : Element) (tag : String) :
    (e.mapTexts f).hasTag tag = e.hasTag tag := by
  rw [mapTexts_eq]
  rfl

mutual

/-- Texts that no element has are not looked at. -/
theorem mapTexts_congr {f g : Text → Text} : ∀ e : Element,
    (∀ x ∈ e.within, ∀ t ∈ x.ownTexts, f t = g t) → e.mapTexts f = e.mapTexts g
  | ⟨tag, attributes, text, literal, children, tail⟩, h => by
    have hown := h _ (self_mem_within _)
    have hbelow := mapTextsAll_congr children fun x hx => h x (by
      rw [within_eq]
      exact List.mem_cons_of_mem _ hx)
    have hattributes : (attributes.map fun (n, v) => (n, v.map f)) =
        attributes.map fun (n, v) => (n, v.map g) := by
      refine List.map_congr_left fun ⟨n, v⟩ hv => Prod.ext rfl (Option.map_congr fun t ht => ?_)
      exact hown t (List.mem_append_right _ (List.mem_filterMap.2 ⟨_, hv, ht⟩))
    have htext : text.map f = text.map g := Option.map_congr fun t ht =>
      hown t (List.mem_append_left _ (List.mem_append_left _ (Option.mem_toList.2 ht)))
    have htail : tail.map f = tail.map g := Option.map_congr fun t ht =>
      hown t (List.mem_append_left _ (List.mem_append_right _ (Option.mem_toList.2 ht)))
    rw [mapTexts, mapTexts, hattributes, htext, htail, hbelow]

theorem mapTextsAll_congr {f g : Text → Text} : ∀ es : List Element,
    (∀ x ∈ withinAll es, ∀ t ∈ x.ownTexts, f t = g t) → mapTextsAll f es = mapTextsAll g es
  | [], _ => rfl
  | e :: es, h => by
    rw [mapTextsAll, mapTextsAll, mapTexts_congr e fun x hx => h x (List.mem_append_left _ hx),
      mapTextsAll_congr es fun x hx => h x (List.mem_append_right _ hx)]

end

/-- A tree whose placeholders name positions that are further on by `d`. -/
def raise (d : ℕ) (e : Element) : Element := e.mapTexts (Stash.raise d)

/-- A tree as it reads through a stash. -/
def spell (write : Stash.Entry → Text) (s : Stash) (e : Element) : Element :=
  e.mapTexts (s.spell write)

theorem mapTexts_image (f : Text → Text) (n : ℕ) :
    (Stash.image n).mapTexts f = leaf "p" (f (Stash.placeholder n)) := by
  rw [mapTexts_eq]
  rfl

@[simp] theorem raise_image (d n : ℕ) : (Stash.image n).raise d = Stash.image (n + d) := by
  rw [raise, mapTexts_image, Stash.raise, Stash.substitute_placeholder]
  rfl

end Element

namespace Stash

/-- **A raised element names the raised position.** -/
theorem place?_raise (d : ℕ) (e : Element) : place? (e.raise d) = (place? e).map (· + d) := by
  simp only [Element.raise, place?, Element.mapTexts_hasTag, Element.mapTexts_children,
    Element.mapTexts_text, List.isEmpty_map]
  split
  · cases e.text with
    | none => rfl
    | some t => exact index?_strip_raise d t
  · rfl

/-- With as many pieces in front of the others, a raised element stands for what the element stood
for. -/
theorem value?_raise (extra entries : List Entry) (e : Element) :
    value? ⟨extra ++ entries⟩ (e.raise extra.length) = value? ⟨entries⟩ e := by
  rw [value?_eq, value?_eq, place?_raise]
  cases place? e with
  | none => rfl
  | some n =>
    simp only [Option.map_some, Option.bind_some]
    rw [List.getElem?_append_right (Nat.le_add_left _ _), Nat.add_sub_cancel]

/-- No placeholder of a tree is dangling: all of them are for pieces of the stash. -/
def Closed (s : Stash) (e : Element) : Prop :=
  ∀ x ∈ e.within, ∀ t ∈ x.ownTexts, ∀ n ∈ positions t, n < s.entries.length

instance (s : Stash) (e : Element) : Decidable (s.Closed e) :=
  inferInstanceAs (Decidable (∀ x ∈ e.within, ∀ t ∈ x.ownTexts, ∀ n ∈ positions t, _))

/-- The position that an element names is one of its text. -/
theorem exists_mem_positions_of_place? {e : Element} {n : ℕ} (h : place? e = some n) :
    ∃ t ∈ e.ownTexts, n ∈ positions t := by
  unfold place? at h
  split at h
  · obtain ⟨t, ht, hn⟩ := Option.bind_eq_some_iff.1 h
    obtain ⟨a, b, -, -, hpieces⟩ := index?_strip_iff.1 hn
    refine ⟨t, List.mem_append_left _ (List.mem_append_left _ (Option.mem_toList.2 ht)), ?_⟩
    rw [positions, hpieces]
    exact List.mem_filterMap.2 ⟨.place n, by simp, rfl⟩
  · cases h

theorem Closed.covers {s : Stash} {e : Element} (h : s.Closed e) : ∀ x ∈ e.within, s.Covers x := by
  intro x hx n hn
  obtain ⟨t, ht, hmem⟩ := exists_mem_positions_of_place? hn
  exact h x hx t ht n hmem

/-- A tree without dangling placeholders reads the same through a stash with further pieces. -/
theorem Closed.spell_of_extends {s t : Stash} {e : Element} (h : s.Closed e) (hst : s.Extends t)
    (write : Entry → Text) : e.spell write t = e.spell write s := by
  refine Element.mapTexts_congr e fun x hx u hu => substitute_congr fun n hn => ?_
  rw [hst.getElem? (h x hx u hu n hn)]

end Stash

end MathPage
