import MathPage.Proofs.Equation.Asked
import MathPage.Proofs.Equation.Outcome
import MathPage.Proofs.Equation.Phrase

/-!
# A list that ends in a block

* `Host.drawer` – a recorder whose renderer always answers;
* `Pass.element_block` – a pass over elements without children that end in a block;
* `Pass.element_unclosed` – a pass over a start marker alone.
-/

namespace MathPage

open Stash

/-- A recorder whose renderer always answers. -/
def Host.drawer (f : Equation → Text) : Host (List Call) := Host.recorder fun e => .ok (some (f e))

/-- A call that was answered so. -/
def Call.drawn (f : Equation → Text) (e : Equation) : Call := ⟨e, .ok (some (f e))⟩

namespace Pass

variable {f : Equation → Text} {u : State (List Call)} {m : Text} {eqn : Equation}

theorem opened_drawer (ha : Marker.attributes m = .ok eqn) :
    opened (Host.drawer f) m u =
      (.ok (Stash.image u.stash.entries.length), u.after [Call.drawn f eqn]) := by
  rw [Host.drawer, opened_recorder, Outcome.marker, ha]
  rfl

/-- The pieces of a block: a start marker, an end marker and, if there is anything between them,
something that is no end marker. -/
structure IsBlock (s : Stash) (m : Text) (i : ℕ) (old : Option ℕ) (j : ℕ) : Prop where
  start : s.entries[i]? = some (.html m)
  isStart : Marker.isStart m = true
  between : ∀ k ∈ old, ∃ t, s.entries[k]? = some (.html t) ∧ Marker.isEnd t = false
  stop : ∃ t, s.entries[j]? = some (.html t) ∧ Marker.isEnd t = true

theorem covers_of_entry {s : Stash} {n : ℕ} {e : Stash.Entry} (h : s.entries[n]? = some e) :
    s.Covers (Stash.image n) := covers_image (List.getElem?_eq_some_iff.1 h).1

theorem startMarker?_image {s : Stash} {n : ℕ} {t : Text} (h : s.entries[n]? = some (.html t)) :
    startMarker? s (Stash.image n) = if Marker.isStart t then some t else none := by
  rw [startMarker?, value?_image, h]
  exact Option.filter_some ..

theorem isEndMarker_image {s : Stash} {n : ℕ} {t : Text} (h : s.entries[n]? = some (.html t)) :
    isEndMarker s (Stash.image n) = Marker.isEnd t := by
  rw [isEndMarker, value?_image, h]
  rfl

variable {s : Stash} {i j : ℕ} {old : Option ℕ}

theorem IsBlock.startMarker? (h : IsBlock s m i old j) : startMarker? s (Stash.image i) = some m := by
  rw [startMarker?_image h.start, if_pos h.isStart]

theorem IsBlock.fits (h : IsBlock s m i old j) :
    (Phrase.block (Stash.image i) (old.map Stash.image) (Stash.image j)).Fits s := by
  obtain ⟨stop, hj, hend⟩ := h.stop
  refine ⟨by rw [h.startMarker?]; rfl, fun x hx => ?_, by rw [isEndMarker_image hj, hend]⟩
  obtain ⟨k, hk, rfl⟩ := Option.mem_map.1 hx
  obtain ⟨t, ht, hnot⟩ := h.between k hk
  rw [isEndMarker_image ht, hnot]

/-- The elements of a block stand for pieces. -/
theorem IsBlock.covers (h : IsBlock s m i old j) :
    ∀ x ∈ (Phrase.block (Stash.image i) (old.map Stash.image) (Stash.image j)).elements,
      s.Covers x ∧ x.children = [] := fun x hx => by
  obtain ⟨stop, hj, -⟩ := h.stop
  simp only [Phrase.elements, List.mem_cons, List.mem_append, Option.mem_toList,
    List.not_mem_nil, or_false] at hx
  rcases hx with rfl | hx | rfl
  · exact ⟨covers_of_entry h.start, rfl⟩
  · obtain ⟨k, hk, rfl⟩ := Option.mem_map.1 hx
    obtain ⟨t, ht, -⟩ := h.between k hk
    exact ⟨covers_of_entry ht, rfl⟩
  · exact ⟨covers_of_entry hj, rfl⟩

/-- **A block behind elements that are no start markers gets its image.** -/
theorem element_block {e : Element} (before : List Element)
    (hchildren : e.children =
      before ++ Stash.image i :: ((old.map Stash.image).toList ++ [Stash.image j]))
    (hbefore : ∀ x ∈ before, startMarker? u.stash x = none ∧ x.children = [])
    (h : IsBlock u.stash m i old j) (ha : Marker.attributes m = .ok eqn) :
    element (Host.drawer f) e u =
      ⟨{ e with children := before ++
          [Stash.image i, Stash.image u.stash.entries.length, Stash.image j] },
        1, none, u.after [Call.drawn f eqn]⟩ := by
  have hleaves : ∀ x ∈ e.children, x.children = [] := fun x hx => by
    rw [hchildren] at hx
    rcases List.mem_append.1 hx with hx | hx
    · exact (hbefore x hx).2
    · exact (h.covers x hx).2
  have hscan := scan_block (h := Host.drawer f) h.fits (fun x hx => (h.covers x hx).1) (.refl _)
    h.startMarker? []
  have hnote : ∀ t (v : State (List Call)), note (Host.drawer f) t v = (.ok (), v) := fun _ _ => rfl
  rw [List.append_nil] at hscan
  simp only [opened_drawer ha, hnote, Phrase.elements] at hscan
  rw [element_of_leaves _ hleaves, children, hchildren, scan_append _ fun x hx => (hbefore x hx).1,
    hscan]
  simp only [Edit.apply_keep_append]
  cases old <;> rfl

/-- **A start marker alone** fails, after its equation was rendered. -/
theorem element_unclosed {e : Element} {i : ℕ} (hchildren : e.children = [Stash.image i])
    (hi : u.stash.entries[i]? = some (.html m)) (hm : Marker.isStart m = true)
    (ha : Marker.attributes m = .ok eqn) :
    element (Host.drawer f) e u = ⟨e, 0, some (.block m), u.after [Call.drawn f eqn]⟩ := by
  have hleaves : ∀ x ∈ e.children, x.children = [] := fun x hx => by
    rw [hchildren, List.mem_singleton] at hx
    rw [hx]
    rfl
  have hunclosed : ∀ v : State (List Call),
      unclosed (Host.drawer f) m v = (.error (.block m), v) := fun _ => rfl
  rw [element_of_leaves _ hleaves, children, hchildren, scan, startMarker?_image hi, if_pos hm]
  simp only [opened_drawer ha, hunclosed]
  obtain ⟨tag, attributes, text, literal, es, tail⟩ := e
  obtain rfl : es = _ := hchildren
  rfl

end Pass

end MathPage
