import MathPage.Proofs.Equation.Recognition
import MathPage.Proofs.Equation.Tag
import MathPage.Proofs.Markdown.Nesting.Pages

/-!
# Converting a page again

The page of an equation of the document is converted to itself: its markers and its figure come back
as three pieces, and the figure is drawn anew. The page of a quote or of a list item is one element,
which comes back as one piece. This piece holds a start marker, so that it is taken for one, and no
end marker is behind it.

* `Nesting.extract_standingPage`, `Nesting.extract_element` – the pieces of the pages;
* `Nesting.conversion_standingPage`, `Nesting.conversion_element` – their conversions;
* `Nesting.render_again` – an equation is rendered again exactly when it stands in the document.
-/

namespace MathPage

/-- Text without quotation marks in front of a start marker does not change its attributes. -/
theorem Marker.attributes_behind {p : Text} (hp : Text.quote ∉ p) {e e' : Equation}
    (he : Writable e) (ha : attributes (start e) = .ok e') : attributes (p ++ start e) = .ok e' := by
  have htag := start_eq_tag he.label.quote_not_mem he.alt.quote_not_mem he.raw.quote_not_mem
  have hscan : ∀ {name : Text}, Text.quote ∉ name → ' ' ∉ name →
      scan name (p ++ start e) = scan name (start e) := fun hname hspace => by
    have hlead : Text.quote ∉ p ++ opener := fun hmem =>
      (List.mem_append.1 hmem).elim hp (by decide)
    rw [htag, scan_tag hname hspace, tag, ← List.append_assoc,
      scan_append_ending hname hspace hlead]
  rw [attributes_eq_ok_iff] at ha ⊢
  rwa [hscan (by decide) (by decide), hscan (by decide) (by decide),
    hscan (by decide) (by decide)]

namespace Markdown.Nesting

open Marker (IsComment)
open RawHtml (IsElement Content IsProse)
open Stash (image slot)

variable {a x b : Text}

/-! ### Raw HTML -/

/-- The lines of a figure among others. -/
theorem unlines_lines_between {before behind : List Text} (hbefore : before ≠ [])
    (hbehind : behind ≠ []) (x : Text) :
    Text.unlines (before ++ (Text.lines x ++ behind)) = Text.unlines (before ++ x :: behind) := by
  have hlines : Text.lines x ≠ [] := Text.splitChar_ne_nil '\n' x
  rw [Text.unlines_append hbefore (List.append_ne_nil_of_left_ne_nil hlines _),
    Text.unlines_append hlines hbehind, Text.unlines_lines,
    Text.unlines_append hbefore (List.cons_ne_nil _ _), Text.unlines_cons hbehind]

/-- The normal form of a page: its lines open no fence. -/
theorem protect_page (before behind : List Text) (hbefore : before ≠ []) (hbehind : behind ≠ [])
    (hlines : ∀ l ∈ before ++ behind, IsUnfenced l) (hx : IsFigure x) (s : Stash) :
    protect .extended (Source.normalize (Text.unlines (before ++ x :: behind))) s =
      .ok (RawHtml.extract (Text.unlines (before ++ x :: behind) ++ "\n\n".toList) s) := by
  have hne : before ++ (Text.lines x ++ behind) ≠ [] := List.append_ne_nil_of_left_ne_nil hbefore _
  have hall : ∀ l ∈ before ++ (Text.lines x ++ behind), IsUnfenced l := fun l hl => by
    rcases List.mem_append.1 hl with hl | hl
    · exact hlines l (List.mem_append_left _ hl)
    · rcases List.mem_append.1 hl with hl | hl
      · exact hx.lines l hl
      · exact hlines l (List.mem_append_right _ hl)
  have hfence := extract_normalize hne hall s
  rw [Text.unlines_append hne (List.cons_ne_nil _ _), unlines_lines_between hbefore hbehind] at hfence
  exact protect_of_fence hfence

open RawHtml in
/-- **The pieces of a page** of two comments that stand in the document. -/
theorem extract_standingPage (ha : IsComment a) (hx : IsElement x) (hb : IsComment b) :
    RawHtml.extract (standingPage a x b ++ "\n\n".toList) {} =
      (placeholders [(false, 0), (true, 1), (false, 2)],
        ⟨[.html (a ++ ['\n']), .html x, .html (b ++ ['\n'])]⟩) := by
  have hbreak : IsProse "\n\n".toList := by decide
  have hstart : ∀ {t : Text}, (∃ u, t = '<' :: u) → ∀ c ∈ t.head?, c = '<' ∨ c = '&' := by
    rintro t ⟨u, rfl⟩ c hc
    exact Or.inl (Option.some.inj hc).symm
  obtain ⟨u, hu⟩ := hb.exists_cons
  obtain ⟨c, v, hv, -⟩ := exists_between_brackets hx
  have hsplit : standingPage a x b ++ "\n\n".toList =
      a ++ ("\n\n".toList ++ (x ++ (['\n'] ++ (b ++ "\n\n".toList)))) := by
    simp [standingPage_eq]
  have hline : ∀ past : Text, lastLine (past ++ "\n\n".toList) = [] := fun past => by
    rw [lastLine_append_of_mem _ (by decide)]
    decide
  have hline' : ∀ past : Text, lastLine (past ++ ['\n']) = [] := fun past => by
    rw [lastLine_append_of_mem _ (by decide)]
    decide
  rw [hsplit]
  have h₀ := Reading.init {} (a ++ ("\n\n".toList ++ (x ++ (['\n'] ++ (b ++ "\n\n".toList)))))
  obtain ⟨s₁, h₁, hpass₁⟩ := h₀.comment_kept ha (by decide) (fun _ hc => by cases hc) rfl
  obtain ⟨s₂, h₂, hpass₂⟩ := h₁.text (by decide) hbreak (hstart ⟨_, by rw [hv]; rfl⟩)
  obtain ⟨s₃, h₃, hpass₃⟩ := h₂.element_kept_line hx (by rw [hline]; decide) (by rw [hu]; rfl)
    (by decide) (hstart ⟨_, by rw [hu]; rfl⟩)
  obtain ⟨s₄, h₄, hpass₄⟩ := h₃.comment_kept_below hb (by rw [hline']; decide) rfl
  have h₄' : Reading s₄ _ ("\n\n".toList ++ []) _ _ := h₄
  obtain ⟨s₅, h₅, hpass₅⟩ := h₄'.text (by decide) hbreak (fun _ hc => by cases hc)
  have hpast : [] ++ a ++ "\n\n".toList ++ x ++ ['\n'] ++ b ++ "\n\n".toList =
      a ++ ("\n\n".toList ++ (x ++ (['\n'] ++ (b ++ "\n\n".toList)))) := by
    simp only [List.nil_append, List.append_assoc]
  rw [hpast] at h₅
  refine (extract_of_reading h₅
    (hpass₁.trans (hpass₂.trans (hpass₃.trans (hpass₄.trans hpass₅))))).trans ?_
  simp [Stash.store, placeholders, placed]

open RawHtml in
/-- **An element is one piece.** -/
theorem extract_element (hx : IsElement x) : RawHtml.extract (x ++ "\n\n".toList) {} =
    (placeholders [(true, 0)], ⟨[.html (x ++ ['\n'])]⟩) := by
  have h₀ := Reading.init {} (x ++ "\n\n".toList)
  obtain ⟨s₁, h₁, hpass₁⟩ := h₀.element_kept hx (by decide) rfl
  have h₁' : Reading s₁ ([] ++ x) ("\n\n".toList ++ []) _ _ := h₁
  obtain ⟨s₂, h₂, hpass₂⟩ := h₁'.text (by decide) (by decide) (fun _ hc => by cases hc)
  exact extract_of_reading h₂ (hpass₁.trans hpass₂)

/-! ### The elements of the nested pages -/

/-- A tag without attributes. -/
def plainTag (name : String) (h : name.toList.head?.any Text.isLetter = true)
    (h' : ∀ c ∈ name.toList, RawHtml.isPlain c = true) : RawHtml.Tag where
  name := name.toList
  letter := h
  plain := h'

/-- The markers and the figure, on lines of their own. -/
theorem content_markers {p q : Text} (hp : IsProse p) (hq : IsProse q) (ha : IsComment a)
    (hx : IsElement x) (hb : IsComment b) :
    Content (p ++ (a ++ '\n' :: (x ++ '\n' :: (b ++ q)))) := by
  obtain ⟨e, inner, rfl, hinner, -, hvoid, hverbatim⟩ := hx
  have hline : IsProse ['\n'] := by decide
  have hcontent := Content.comment hp ha
    (.element e hline ⟨hvoid, hverbatim⟩ hinner (.comment hline hb (.prose hq)))
  simpa using hcontent

theorem isElement_quotedPage (ha : IsComment a) (hx : IsElement x) (hb : IsComment b) :
    IsElement (quotedPage a x b) := by
  have hinner := content_markers (p := ['\n']) (q := ['\n']) (by decide) (by decide) ha hx hb
  refine ⟨plainTag "blockquote" rfl (by decide), _, ?_, hinner, by decide, by decide, by decide⟩
  simp [quotedPage_eq, plainTag, RawHtml.Tag.opened, RawHtml.Tag.head, RawHtml.Tag.attributes,
    RawHtml.Tag.closed]

theorem isElement_listedPage (ha : IsComment a) (hx : IsElement x) (hb : IsComment b) :
    IsElement (listedPage a x b) := by
  have hline : IsProse ['\n'] := by decide
  have hmarkers := content_markers (p := ['\n']) (q := ['\n']) hline hline ha hx hb
  have htext := Content.element (plainTag "p" rfl (by decide)) hline (by decide)
    (.prose (t := "item".toList) (by decide)) hmarkers
  have hitem := Content.element (plainTag "li" rfl (by decide)) hline (by decide) htext (.prose hline)
  refine ⟨plainTag "ul" rfl (by decide), _, ?_, hitem, by decide, by decide, by decide⟩
  simp [listedPage_eq, plainTag, RawHtml.Tag.opened, RawHtml.Tag.head, RawHtml.Tag.attributes,
    RawHtml.Tag.closed]

/-! ### Converting the pages -/

variable {f : Equation → Text} {e e' : Equation}

theorem isUnfenced_start (he : Marker.Writable e) : IsUnfenced (Marker.start e) :=
  isUnfenced_comment (p := []) he.isComment_start (by decide)

theorem isUnfenced_stop : IsUnfenced Marker.stop :=
  isUnfenced_comment (p := []) Marker.isComment_stop (by decide)

section

variable (he : Marker.Writable e) (ha : Marker.attributes (Marker.start e) = .ok e')
  (hf : IsFigure (f e'))
include he ha hf

/-- **The page of an equation of the document is converted to itself**, and the equation is rendered
once more. -/
theorem conversion_standingPage :
    conversion f (standingPage (Marker.start e) (f e') Marker.stop) =
      (.ok (standingPage (Marker.start e) (f e') Marker.stop), [e']) := by
  have hprotect := protect_page [Marker.start e, []] [Marker.stop]
    (List.cons_ne_nil _ _) (List.cons_ne_nil _ _) (fun l hl => by
      simp only [List.cons_append, List.nil_append, List.mem_cons, List.not_mem_nil, or_false] at hl
      rcases hl with rfl | rfl | rfl
      · exact isUnfenced_start he
      · exact isUnfenced_of_word (by decide)
      · exact isUnfenced_stop) hf {}
  have hextract := extract_standingPage he.isComment_start hf.element Marker.isComment_stop
  let s : Stash := ⟨[.html (Marker.start e ++ ['\n']), .html (f e'), .html (Marker.stop ++ ['\n'])]⟩
  have hblock : Pass.IsBlock s (Marker.start e ++ ['\n']) 0 (some 1) 2 :=
    ⟨rfl, Marker.isStart_start he _, fun k hk => Option.some.inj hk ▸ ⟨_, rfl, hf.isEnd⟩,
      ⟨_, rfl, by decide⟩⟩
  have hpass := Pass.element_block (f := f) (e := .node "div" [image 0, image 1, image 2])
    (u := ⟨s, []⟩) [] rfl (by simp) hblock (Marker.attributes_append ha _)
  have hmade : laidOut ⟨s.entries ++ [.html (f e')]⟩ (.node "div" [image 0, image 3, image 2]) =
      .ok ([] ++ (slot 0 ++ ('\n' :: (slot 3 ++ ('\n' :: (slot 2 ++ [])))))) := rfl
  have hslots : Stash.Slotted ⟨s.entries ++ [.html (f e')]⟩ _ _ :=
    slotted_three (p := []) (q := []) (by decide) (by decide) (i := 0) rfl
      (isPiece_start he (by decide)) (j := 3) rfl hf.isPiece (k := 2) rfl (isPiece_stop (by decide))
  have hblank : Text.allBlank (standingPage (Marker.start e) (f e') Marker.stop) = false := rfl
  have htree := tree_of_placeholders [(false, 0), (true, 1), (false, 2)]
    (t := standingPage (Marker.start e) (f e') Marker.stop) (s := s) (by decide)
    (hprotect.trans (congrArg Except.ok hextract)) rfl
  rw [conversion_of_block hblank htree hpass hmade hslots,
    strip_pieces he.isComment_start Marker.isComment_stop]

end

/-- **An element with a start marker inside** is taken for a start marker without an end marker. -/
theorem conversion_element {t p q : Text} (ht : t = p ++ (Marker.start e ++ q))
    (hblank : Text.allBlank t = false)
    (hprotect : protect .extended (Source.normalize t) {} =
      .ok (RawHtml.extract (t ++ "\n\n".toList) {}))
    (hx : IsElement t) (hp : Text.quote ∉ p) (he : Marker.Writable e)
    (ha : Marker.attributes (Marker.start e) = .ok e') :
    conversion f t = (.error (.block (t ++ ['\n'])), [e']) := by
  have hsplit : t ++ ['\n'] = p ++ (Marker.start e ++ (q ++ ['\n'])) := by
    rw [ht, List.append_assoc, List.append_assoc]
  have hstart : Marker.isStart (t ++ ['\n']) = true := by
    rw [hsplit]
    exact Marker.isStart_append (Marker.isStart_start he _) p
  have hattributes : Marker.attributes (t ++ ['\n']) = .ok e' := by
    rw [hsplit, ← List.append_assoc]
    exact Marker.attributes_append (Marker.attributes_behind hp he ha) _
  have htree := tree_of_placeholders [(true, 0)] (s := ⟨[.html (t ++ ['\n'])]⟩) (by decide)
    (hprotect.trans (congrArg Except.ok (extract_element hx))) rfl
  have hpass := Pass.element_unclosed (f := f) (e := .node "div" [image 0])
    (u := ⟨⟨[.html (t ++ ['\n'])]⟩, []⟩) rfl rfl hstart hattributes
  rw [conversion_of_tree hblank htree hpass]
  rfl

section

variable (he : Marker.Writable e) (ha : Marker.attributes (Marker.start e) = .ok e')
  (hf : IsFigure (f e'))
include he ha hf

/-- **The page of an equation of a quote cannot be converted again.** -/
theorem conversion_quotedPage :
    conversion f (quotedPage (Marker.start e) (f e') Marker.stop) =
      (.error (.block (quotedPage (Marker.start e) (f e') Marker.stop ++ ['\n'])), [e']) := by
  have hprotect := protect_page ["<blockquote>".toList, Marker.start e]
    [Marker.stop, "</blockquote>".toList]
    (List.cons_ne_nil _ _) (List.cons_ne_nil _ _) (fun l hl => by
      simp only [List.cons_append, List.nil_append, List.mem_cons, List.not_mem_nil, or_false] at hl
      rcases hl with rfl | rfl | rfl | rfl
      · exact isUnfenced_of_word (by decide)
      · exact isUnfenced_start he
      · exact isUnfenced_stop
      · exact isUnfenced_of_word (by decide)) hf {}
  exact conversion_element (quotedPage_eq _ _ _) rfl hprotect
    (isElement_quotedPage he.isComment_start hf.element Marker.isComment_stop) (by decide) he ha

/-- **The page of an equation of a list item cannot be converted again.** -/
theorem conversion_listedPage :
    conversion f (listedPage (Marker.start e) (f e') Marker.stop) =
      (.error (.block (listedPage (Marker.start e) (f e') Marker.stop ++ ['\n'])), [e']) := by
  have hprotect := protect_page
    ["<ul>".toList, "<li>".toList, "<p>item</p>".toList, Marker.start e]
    [Marker.stop, "</li>".toList, "</ul>".toList]
    (List.cons_ne_nil _ _) (List.cons_ne_nil _ _) (fun l hl => by
      simp only [List.cons_append, List.nil_append, List.mem_cons, List.not_mem_nil, or_false] at hl
      rcases hl with rfl | rfl | rfl | rfl | rfl | rfl | rfl
      · exact isUnfenced_of_word (by decide)
      · exact isUnfenced_of_word (by decide)
      · exact isUnfenced_of_word (by decide)
      · exact isUnfenced_start he
      · exact isUnfenced_stop
      · exact isUnfenced_of_word (by decide)
      · exact isUnfenced_of_word (by decide)) hf {}
  exact conversion_element (listedPage_eq _ _ _) rfl hprotect
    (isElement_listedPage he.isComment_start hf.element Marker.isComment_stop) (by decide) he ha

end

/-! ### Rendering again -/

/-- A host's conversion of a text: the outcome and the equations that it asks for, whatever has
happened outside. -/
def Converts {ω : Type} (h : Host ω) (t : Text) (r : Except Failure Text) (es : List Equation) : Prop :=
  ∀ w, (render h t w).1 = r ∧ equations h t w = es

theorem converts_of_conversion {ω : Type} {h : Host ω} (hq : h.NeverRefuses)
    (hf : ∀ e w, (h.render e w).1 = .ok (some (f e))) {t : Text} {r : Except Failure Text}
    {es : List Equation} (ht : conversion f t = (r, es)) : Converts h t r es := fun w => by
  rw [conversion_eq hq hf t w] at ht
  exact Prod.mk.inj ht

/-- **Only an equation of the document can be rendered again.** A renderer answers with figures, by
the equation alone. The page of an equation of the document is converted to itself, with the same call
as before. That of a quote or of a list item, where the values are calm, is converted with the same
call too, but fails: the whole page is taken for a start marker. -/
theorem render_again {ω : Type} (h : Host ω) (hq : h.NeverRefuses) (f : Equation → Text)
    (hf : ∀ e w, (h.render e w).1 = .ok (some (f e))) (hfigure : ∀ e, IsFigure (f e))
    (e : Equation) (he : Marker.Writable e) :
    ∃ alt raw,
      let e' : Equation := ⟨e.label, alt, raw⟩
      let top := standingPage (Marker.start e) (f e') Marker.stop
      let quote := quotedPage (Marker.start e) (f e') Marker.stop
      let item := listedPage (Marker.start e) (f e') Marker.stop
      Converts h (standing (Marker.start e) Marker.stop) (.ok top) [e'] ∧
      Converts h top (.ok top) [e'] ∧
      ((∀ t ∈ [e.label, e.alt, e.raw], IsCalm t) →
        Converts h (quoted (Marker.start e) Marker.stop) (.ok quote) [e'] ∧
        Converts h quote (.error (.block (quote ++ ['\n']))) [e'] ∧
        Converts h (listed (Marker.start e) Marker.stop) (.ok item) [e'] ∧
        Converts h item (.error (.block (item ++ ['\n']))) [e']) := by
  obtain ⟨alt, raw, ha⟩ := Marker.exists_attributes_start he
  have hx := hfigure ⟨e.label, alt, raw⟩
  refine ⟨alt, raw, converts_of_conversion hq hf (conversion_standing he ha hx),
    converts_of_conversion hq hf (conversion_standingPage he ha hx), fun hcalm => ?_⟩
  have hundisturbed := undisturbed_start he (hcalm _ (by simp)) (hcalm _ (by simp))
    (hcalm _ (by simp))
  exact ⟨converts_of_conversion hq hf (conversion_quoted he ha hx hundisturbed),
    converts_of_conversion hq hf (conversion_quotedPage he ha hx),
    converts_of_conversion hq hf (conversion_listed he ha hx hundisturbed),
    converts_of_conversion hq hf (conversion_listedPage he ha hx)⟩

/-- An empty box. -/
def box : Text := "<div class=\x22equation\x22></div>".toList

/-- A host that answers every equation with an empty box. -/
def boxer : Host Unit where
  render _ := Action.result (some box)
  log _ _ := Action.result ()

theorem isFigure_box : IsFigure box where
  element := by
    refine ⟨⟨"div".toList, [⟨"class".toList, "equation".toList, by decide, by decide, by decide⟩],
      rfl, by decide⟩, [], rfl, .prose (by decide), by decide, by decide, by decide⟩
  block := rfl
  lines := fun l hl => by
    rw [Text.lines_of_not_mem (by decide), List.mem_singleton] at hl
    rw [hl]
    exact isUnfenced_of_word (by decide)

/-- A square, at the top level and in a quote. -/
theorem render_again_square :
    boxer.NeverRefuses ∧ (∀ e w, (boxer.render e w).1 = .ok (some box)) ∧ IsFigure box ∧
      Marker.Writable ⟨['e'], ['a'], "x^2".toList⟩ ∧
      (∃ e' page, Converts boxer
          (standing (Marker.start ⟨['e'], ['a'], "x^2".toList⟩) Marker.stop) (.ok page) [e'] ∧
        Converts boxer page (.ok page) [e']) ∧
      ∃ e' page, Converts boxer
          (quoted (Marker.start ⟨['e'], ['a'], "x^2".toList⟩) Marker.stop) (.ok page) [e'] ∧
        Converts boxer page (.error (.block (page ++ ['\n']))) [e'] := by
  have hq : boxer.NeverRefuses := fun _ _ _ => rfl
  have hf : ∀ e w, (boxer.render e w).1 = .ok (some box) := fun _ _ => rfl
  have he : Marker.Writable ⟨['e'], ['a'], "x^2".toList⟩ := by decide
  obtain ⟨alt, raw, hfirst, hagain, hnested⟩ :=
    render_again boxer hq (fun _ => box) hf (fun _ => isFigure_box) _ he
  obtain ⟨hquoted, hfails, -, -⟩ := hnested (by decide)
  exact ⟨hq, hf, isFigure_box, he, ⟨_, _, hfirst, hagain⟩, _, _, hquoted, hfails⟩

/-- In a quote the square is converted once, and its page is not converted any more. -/
theorem render_again_quote :
    Converts boxer (quoted (Marker.start ⟨['e'], ['a'], "x^2".toList⟩) Marker.stop)
        (.ok (quotedPage (Marker.start ⟨['e'], ['a'], "x^2".toList⟩) box Marker.stop))
        [⟨['e'], ['a'], "x^2".toList⟩] ∧
      Converts boxer (quotedPage (Marker.start ⟨['e'], ['a'], "x^2".toList⟩) box Marker.stop)
        (.error (.block
          (quotedPage (Marker.start ⟨['e'], ['a'], "x^2".toList⟩) box Marker.stop ++ ['\n'])))
        [⟨['e'], ['a'], "x^2".toList⟩] := by
  have hq : boxer.NeverRefuses := fun _ _ _ => rfl
  have hf : ∀ e w, (boxer.render e w).1 = .ok (some box) := fun _ _ => rfl
  have he : Marker.Writable ⟨['e'], ['a'], "x^2".toList⟩ := by decide
  have hcalm : ∀ t ∈ [['e'], ['a'], "x^2".toList], IsCalm t := by decide
  have hundisturbed := undisturbed_start he (hcalm _ (by simp)) (hcalm _ (by simp))
    (hcalm _ (by simp))
  exact ⟨converts_of_conversion hq hf (conversion_quoted (f := fun _ => box) he rfl isFigure_box
      hundisturbed),
    converts_of_conversion hq hf (conversion_quotedPage (f := fun _ => box) he rfl isFigure_box)⟩

end Markdown.Nesting

end MathPage
