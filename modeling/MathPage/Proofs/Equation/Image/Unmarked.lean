import MathPage.Proofs.Equation.Image.Element
import MathPage.Proofs.Equation.Image.Embedded
import MathPage.Proofs.Equation.Recognition

/-!
# Images hold no markers

What a call of the renderer gives goes into the stash, where the pass looks for markers. Whatever
stands in a value, its angle brackets are escaped, so that the only ones in a printed element are
those of the tags of the element itself.

* `not_mem_quoted` – no angle bracket opens in a printed value;
* `apart_element` – in a printed element no angle bracket is followed by an exclamation mark.

So an element is neither a start marker nor an end marker, even if markers stand in its values
(`render_unmarked`).
-/

namespace MathPage.Image

/-! ### Values -/

theorem not_mem_escape (t : Text) : '<' ∉ escape t := fun hmem => by
  obtain ⟨c, -, hc⟩ := List.mem_flatMap.1 hmem
  unfold escapeChar at hc
  split at hc
  · revert hc
    decide
  · revert hc
    decide
  · revert hc
    decide
  · rename_i hopen _
    exact hopen (List.mem_singleton.1 hc).symm

/-- **No angle bracket opens in a printed value**, whichever marks are around it. -/
theorem not_mem_quoted (t : Text) : '<' ∉ quoted t := by
  have hescape := not_mem_escape t
  have hquotes : '<' ∉ (escape t).flatMap escapeQuote := fun hmem => by
    obtain ⟨c, hc, hcode⟩ := List.mem_flatMap.1 hmem
    unfold escapeQuote at hcode
    split at hcode
    · revert hcode
      decide
    · exact hescape (List.mem_singleton.1 hcode ▸ hc)
  have hbetween : ∀ {m : Char} {u : Text}, m ≠ '<' → '<' ∉ u → '<' ∉ m :: u ++ [m] := by
    intro m u hm hu hmem
    simp only [List.cons_append, List.mem_cons, List.mem_append, List.not_mem_nil, or_false] at hmem
    rcases hmem with hmem | hmem | hmem
    · exact hm hmem.symm
    · exact hu hmem
    · exact hm hmem.symm
  unfold quoted
  dsimp only
  split
  · split
    · exact hbetween (by decide) hquotes
    · exact hbetween (by decide) hescape
  · exact hbetween (by decide) hescape

/-! ### The element -/

theorem apart_field {name : String} (hname : '<' ∉ name.toList) (t : Text) :
    Text.Apart '<' '!' (field name t) := by
  refine Text.apart_of_not_mem fun hmem => ?_
  simp only [field, List.mem_cons, List.mem_append] at hmem
  rcases hmem with (hmem | hmem) | hmem | hmem
  · cases hmem
  · exact hname hmem
  · cases hmem
  · exact not_mem_quoted t hmem

/-- **In a printed element no angle bracket is followed by an exclamation mark**, neither in a value
nor where a value meets the fixed text. -/
theorem apart_element (e : Equation) (src : Text) : Text.Apart '<' '!' (element e src) := by
  have hfield : ∀ {t : Text} {name : String} {u : Text}, Text.Apart '<' '!' t →
      '<' ∉ name.toList → Text.Apart '<' '!' (t ++ field name u) := fun ht hname =>
    ht.append (apart_field hname _) (Or.inr (by simp [field]))
  have hfixed : ∀ {t u : Text}, Text.Apart '<' '!' t → Text.Apart '<' '!' u →
      u.head? ≠ some '!' → Text.Apart '<' '!' (t ++ u) := fun ht hu hhead =>
    ht.append hu (Or.inr hhead)
  have hbegin : Text.Apart '<' '!' "<div".toList := by decide
  unfold element
  refine hfixed (hfield (hfield (hfixed (hfield (hfield (hfield (hfield hbegin ?_) ?_) ?_) ?_)
    ?_ ?_) ?_) ?_) ?_ ?_ <;> decide

/-! ### Calls -/

variable {ω : Type}

/-- **What a call gives is never taken for a marker**, whatever stands in the equation, in the base
of the source and in the answer to the request: no comment opens in it, and it is neither a start
marker nor an end marker. A call gives something unless the request ends the program or a message is
refused. -/
theorem render_unmarked (n : Net ω) (s : Source) (e : Equation) (w : ω) :
    (∀ html, (render n s e w).1 = .ok html →
      ¬ "<!--".toList <:+: html ∧ Marker.isStart html = false ∧ Marker.isEnd html = false) ∧
    (n.logger.NeverRefuses →
      (s.inline = true → ∀ f, (n.fetch (url s e.label e.raw) s.timeout w).1 ≠ .broken f) →
      ∃ html, (render n s e w).1 = .ok html ∧
        Marker.isStart html = false ∧ Marker.isEnd html = false) := by
  refine ⟨fun html hhtml => ?_, fun hq hanswer => ?_⟩
  · obtain ⟨src, -, rfl⟩ := eq_element_of_render hhtml
    have hapart := apart_element e src
    refine ⟨?_, Marker.unmarked_of_apart hapart⟩
    rintro ⟨a, b, heq⟩
    rw [List.append_assoc] at heq
    exact hapart.not_infix heq.symm
  · obtain ⟨src, hsource⟩ := exists_source_eq_ok hanswer
    exact ⟨element e src, by rw [render_eq_map hq, hsource]; rfl,
      Marker.unmarked_of_apart (apart_element e src)⟩

/-- An equation whose values are markers, behind a base that holds one too. -/
theorem render_unmarked_markers :
    let marker : Text := Marker.start ⟨"a".toList, [], "x".toList⟩
    let e : Equation := ⟨marker, Marker.stop, "<!--".toList ++ marker⟩
    let s : Source := { base := some (Marker.stop ++ marker), inline := true }
    let answer : Answer := .response 200 (Utf8.encode marker)
    Marker.isStart marker = true ∧
      ∃ html, (render .scripted s e [answer]).1 = .ok html ∧
        ¬ "<!--".toList <:+: html ∧ Marker.isStart html = false ∧ Marker.isEnd html = false := by
  intro marker e s answer
  have hq : Net.scripted.logger.NeverRefuses := fun _ _ _ => rfl
  obtain ⟨hgiven, hgives⟩ := render_unmarked .scripted s e [answer]
  obtain ⟨html, hhtml, -⟩ := hgives hq fun _ f hf => by cases hf
  exact ⟨by decide, html, hhtml, hgiven html hhtml⟩

end MathPage.Image
