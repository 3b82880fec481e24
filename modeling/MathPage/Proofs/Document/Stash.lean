import MathPage.Document.Stash
import MathPage.Proofs.Text.Basic

/-!
# Placeholders and what they stand for

* `Stash.image` – the paragraph that stands for a piece, as the equation pass makes it;
* `Stash.place?` – the position that an element names, whether or not a piece is there;
* `Stash.Covers` – the position that an element names, if any, is that of a piece;
* `Stash.Extends` – a stash to which pieces were added at the end.

A placeholder is read as the position that it was written for (`index?_placeholder`), and what an
element stands for is not changed by further pieces (`value?_of_extends`).
-/

namespace MathPage.Stash

/-! ### Writing and reading placeholders -/

@[simp] theorem index?_placeholder (n : ℕ) : index? (placeholder n) = some n := by
  have h : Text.after? head (placeholder n) = some (Text.decimal n ++ [closing]) := by
    rw [placeholder, List.append_assoc, Text.after?_append]
  simp [index?, h]

theorem placeholder_injective : Function.Injective placeholder := fun m n h => by
  simpa using congrArg index? h

/-- There is no blank at the ends of a placeholder. -/
@[simp] theorem strip_placeholder (n : ℕ) : Text.strip (placeholder n) = placeholder n := by
  have hne : placeholder n = opening :: ("wzxhzdk:".toList ++ Text.decimal n) ++ [closing] := by
    simp [placeholder, head]
  rw [hne]
  exact Text.strip_eq_self (by decide) (by decide)

/-- What does not stand in a placeholder. -/
theorem not_mem_placeholder {c : Char} (hc : c ∉ head ++ [closing]) (hdigit : Text.isDigit c = false)
    (n : ℕ) : c ∉ placeholder n := fun hmem => by
  rcases List.mem_append.1 hmem with hmem | hmem
  · rcases List.mem_append.1 hmem with hmem | hmem
    · exact hc (List.mem_append_left _ hmem)
    · rw [Text.isDigit_of_mem_decimal hmem] at hdigit
      cases hdigit
  · exact hc (List.mem_append_right _ hmem)

/-! ### Elements that name a position -/

/-- The paragraph that stands for the piece at a position. -/
def image (n : ℕ) : Element := Element.leaf "p" (placeholder n)

/-- The position that an element names: it is a paragraph without children, and its text is a
placeholder between blanks. -/
def place? (e : Element) : Option ℕ :=
  if e.hasTag "p" && e.children.isEmpty then e.text.bind fun t => index? (Text.strip t) else none

@[simp] theorem image_children (n : ℕ) : (image n).children = [] := rfl

@[simp] theorem place?_image (n : ℕ) : place? (image n) = some n := by
  simp [place?, image, Element.leaf, Element.hasTag]

/-- An element stands for the HTML at the position that it names. -/
theorem value?_eq (s : Stash) (e : Element) :
    s.value? e = (place? e).bind fun n => s.entries[n]?.bind Entry.html? := by
  unfold value? place?
  split
  · cases e.text <;> rfl
  · rfl

@[simp] theorem value?_image (s : Stash) (n : ℕ) :
    s.value? (image n) = s.entries[n]?.bind Entry.html? := by
  simp [value?_eq]

/-- What an element stands for does not depend on the children that it has, as long as it has
some. -/
theorem place?_eq_none_of_children {e : Element} (h : e.children ≠ []) : place? e = none := by
  simp [place?, h]

/-! ### Stashes that grow -/

/-- The position that an element names, if any, is that of a piece. -/
def Covers (s : Stash) (e : Element) : Prop := ∀ n, place? e = some n → n < s.entries.length

instance (s : Stash) (e : Element) : Decidable (s.Covers e) :=
  inferInstanceAs (Decidable (∀ n ∈ place? e, n < s.entries.length))

/-- The second stash holds the pieces of the first and, behind them, perhaps others. -/
def Extends (s t : Stash) : Prop := s.entries <+: t.entries

theorem Extends.refl (s : Stash) : s.Extends s := List.prefix_refl _

theorem Extends.trans {s t u : Stash} (h : s.Extends t) (h' : t.Extends u) : s.Extends u :=
  List.IsPrefix.trans h h'

theorem Extends.length_le {s t : Stash} (h : s.Extends t) :
    s.entries.length ≤ t.entries.length := List.IsPrefix.length_le h

theorem Extends.getElem? {s t : Stash} (h : s.Extends t) {n : ℕ} (hn : n < s.entries.length) :
    t.entries[n]? = s.entries[n]? := by
  obtain ⟨more, hm⟩ := h
  rw [← hm, List.getElem?_append_left hn]

theorem extends_store (s : Stash) (e : Entry) : s.Extends (s.store e).2 :=
  List.prefix_append _ _

/-- Further pieces do not change what an element stands for. -/
theorem value?_of_extends {s t : Stash} {e : Element} (hst : s.Extends t) (h : s.Covers e) :
    t.value? e = s.value? e := by
  rw [value?_eq, value?_eq]
  cases hp : place? e with
  | none => rfl
  | some n => simp only [Option.bind_some, hst.getElem? (h n hp)]

theorem covers_image {s : Stash} {n : ℕ} (h : n < s.entries.length) : s.Covers (image n) := by
  intro m hm
  rw [place?_image, Option.some.injEq] at hm
  exact hm ▸ h

end MathPage.Stash
