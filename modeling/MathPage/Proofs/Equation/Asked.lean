import MathPage.Proofs.Document.Tree
import MathPage.Proofs.Equation.Record

/-!
# What a pass asks the renderer for

* `Pass.asked` – the equations for which the renderer has been called, whatever it answered;
* `Pass.asked_opened` – a start marker asks for its equation, if its attributes can be read;
* `Pass.IsPair` – an element that may be a start marker, in front of an end marker;
* `Pass.asked_element_pair` – a pass over a list that ends in such a pair.
-/

namespace MathPage

variable {ω : Type} {h : Host ω}

/-- Elements that are kept, in front of others. -/
theorem Edit.apply_keep_append (es : List Element) (edits : List Edit) (rest : List Element) :
    Edit.apply (es.map (fun _ => .keep) ++ edits) (es ++ rest) = es ++ Edit.apply edits rest := by
  induction es with
  | nil => rfl
  | cons e es ih => exact congrArg (e :: ·) ih

theorem Edit.apply_keep (es : List Element) : Edit.apply (es.map fun _ => .keep) es = es := by
  have happly := Edit.apply_keep_append es [] []
  rwa [List.append_nil, List.append_nil, Edit.apply, List.append_nil] at happly

namespace Pass

/-- The equations that the renderer has been asked for, in their order. -/
def asked (s : State (ω × List Call)) : List Equation := s.outside.2.map Call.equation

theorem asked_of_logged {s t : State (ω × List Call)} (hl : h.traced.Logged s.outside t.outside) :
    asked t = asked s := by
  rw [asked, Host.calls_of_logged hl, asked]

/-- **A start marker asks for its equation**, if its attributes can be read. -/
theorem asked_opened (hq : h.NeverRefuses) (t : Text) (s : State (ω × List Call)) :
    asked (opened h.traced t s).2 = asked s ++ (Marker.attributes t).toOption.toList ∧
      s.stash.Extends (opened h.traced t s).2.stash := by
  have hq' := hq.traced
  obtain ⟨u, hnote, hlogged⟩ := exists_note_eq_ok hq' "Found an equation...".toList s
  cases ha : Marker.attributes t with
  | error f =>
    obtain ⟨v, hread, hlogged'⟩ := (Marker.read_computes h.traced t).exists_eq hq' u
    rw [ha] at hread
    have hopened : opened h.traced t s = (.error f, ⟨s.stash, v⟩) := by
      rw [opened, Action.bind_of_ok hnote, image, Action.bind_of_error (outside_of_eq hread)]
    rw [hopened]
    refine ⟨?_, .refl _⟩
    rw [asked_of_logged (s := s) (hlogged.trans hlogged')]
    exact (List.append_nil _).symm
  | ok e =>
    obtain ⟨v, hread⟩ := Marker.exists_read_eq_ok hq' ha u
    have hcalls : v.2 = s.outside.2 :=
      Host.calls_of_logged (hlogged.trans (Marker.read_eq_ok hread).2)
    rcases hrender : h.traced.render e v with ⟨f | html, w⟩
    · have hw : w.2 = v.2 ++ [⟨e, .error f⟩] := Host.calls_of_render hrender
      have hopened : opened h.traced t s = (.error f, ⟨s.stash, w⟩) := by
        rw [opened, Action.bind_of_ok hnote, image, Action.bind_of_ok (outside_of_eq hread),
          Action.bind_of_error (outside_of_eq hrender)]
      rw [hopened]
      refine ⟨?_, .refl _⟩
      rw [asked, hw, hcalls, List.map_append]
      rfl
    · have hw : w.2 = v.2 ++ [⟨e, .ok html⟩] := Host.calls_of_render hrender
      have hopened : opened h.traced t s = (.ok (Stash.image s.stash.entries.length),
          ⟨(s.stash.store (Answer.entry ⟨e, html⟩)).2, w⟩) := by
        rw [opened, Action.bind_of_ok hnote, image, Action.bind_of_ok (outside_of_eq hread),
          Action.bind_of_ok (outside_of_eq hrender), keepHtml_eq ⟨e, html⟩]
      rw [hopened]
      refine ⟨?_, Stash.extends_store _ _⟩
      rw [asked, hw, hcalls, List.map_append]
      rfl

/-! ### A pair at the end of a list -/

/-- An element in front of an end marker; the element stands for the given start marker, if for any,
and nothing below it stands for one. -/
structure IsPair (s : Stash) (marker : Option Text) (p q : Element) : Prop where
  first : startMarker? s p = marker
  below : ∀ x ∈ Element.withinAll p.children, startMarker? s x = none
  second : ∃ t, s.value? q = some t ∧ Marker.isEnd t = true
  leaf : q.children = []

theorem children_of_startMarker? {s : Stash} {e : Element} {t : Text}
    (he : startMarker? s e = some t) : e.children = [] := by
  by_contra hne
  rw [startMarker?, Stash.value?_eq, Stash.place?_eq_none_of_children hne] at he
  cases he

theorem isEndMarker_of_extends {s t : Stash} {e : Element} (hst : s.Extends t)
    (he : ∃ u, s.value? e = some u ∧ Marker.isEnd u = true) : isEndMarker t e = true := by
  obtain ⟨u, hu, hend⟩ := he
  have hcovers : s.Covers e := fun n hn => by
    rw [Stash.value?_eq, hn, Option.bind_some] at hu
    by_contra hle
    rw [List.getElem?_eq_none (by omega)] at hu
    cases hu
  rw [isEndMarker, Stash.value?_of_extends hst hcovers, hu, Option.any_some, hend]

/-- Elements that stand for no start marker are kept. -/
theorem scan_append (h : Host ω) {es : List Element} {s : State ω}
    (hes : ∀ x ∈ es, startMarker? s.stash x = none) (rest : List Element) :
    scan h (es ++ rest) s = { scan h rest s with
      made := es.map (fun _ => Edit.keep) ++ (scan h rest s).made } := by
  induction es with
  | nil => rfl
  | cons e es ih =>
    rw [List.cons_append, scan, hes e List.mem_cons_self]
    simp only [ih fun x hx => hes x (List.mem_cons_of_mem _ hx), List.map_cons, List.cons_append]

/-- A list without start markers is kept as it is. -/
theorem scan_of_unmarked (h : Host ω) {es : List Element} {s : State ω}
    (hes : ∀ x ∈ es, startMarker? s.stash x = none) :
    scan h es s = ⟨es.map fun _ => .keep, 0, none, s⟩ := by
  have hscan := scan_append h hes []
  rwa [List.append_nil, scan, List.append_nil] at hscan

mutual

/-- A pass over a tree without start markers does nothing. -/
theorem element_of_unmarked (h : Host ω) : ∀ (e : Element) (s : State ω),
    (∀ x ∈ Element.withinAll e.children, startMarker? s.stash x = none) →
      element h e s = ⟨e, 0, none, s⟩
  | ⟨tag, attributes, text, literal, es, tail⟩, s, hes => by
    have hscan := scan_of_unmarked h fun x hx => hes x (Element.mem_withinAll_of_mem hx)
    have hbelow := siblings_of_unmarked h es s fun y hy x hx => hes x (Element.mem_withinAll.2
      ⟨y, hy, by rw [Element.within_eq]; exact List.mem_cons_of_mem _ hx⟩)
    simp only [element, hscan, hbelow, Edit.apply_keep]

/-- The same for what is below each of several elements. -/
theorem siblings_of_unmarked (h : Host ω) : ∀ (es : List Element) (s : State ω),
    (∀ y ∈ es, ∀ x ∈ Element.withinAll y.children, startMarker? s.stash x = none) →
      siblings h es s = ⟨es, 0, none, s⟩
  | [], _, _ => rfl
  | e :: es, s, hes => by
    have hfirst := element_of_unmarked h e s (hes e List.mem_cons_self)
    have hrest := siblings_of_unmarked h es s fun y hy => hes y (List.mem_cons_of_mem _ hy)
    simp only [siblings, hfirst, hrest]

end

/-- Nothing happens below elements without children. -/
theorem element_of_leaves (h : Host ω) {e : Element} (hleaves : ∀ x ∈ e.children, x.children = [])
    (s : State ω) : element h e s = children h e s := by
  obtain ⟨tag, attributes, text, literal, es, tail⟩ := e
  have hbelow := siblings_of_unmarked h es (scan h es s).state fun y hy x hx => by
    rw [hleaves y hy] at hx
    exact absurd hx List.not_mem_nil
  cases hf : (scan h es s).failure with
  | none => simp only [element, children, hf, hbelow, Nat.add_zero]
  | some f => simp only [element, children, hf]

/-- A pass over an only child is a pass over the element, if the child is no start marker. -/
theorem element_of_child (h : Host ω) {e c : Element} (hc : e.children = [c]) {s : State ω}
    (hplain : startMarker? s.stash c = none) : element h e s =
      { element h c s with made := { e with children := [(element h c s).made] } } := by
  obtain ⟨tag, attributes, text, literal, es, tail⟩ := e
  obtain rfl : es = [c] := hc
  cases hf : (element h c s).failure with
  | none => simp [element, scan, hplain, siblings, hf, Edit.apply]
  | some f => simp [element, scan, hplain, siblings, hf, Edit.apply]

/-! ### What a pass asks for -/

theorem asked_scan_pair (hq : h.NeverRefuses) {s : State (ω × List Call)} {t : Text}
    {p q : Element} (hpair : IsPair s.stash (some t) p q) :
    asked (scan h.traced [p, q] s).state = asked s ++ (Marker.attributes t).toOption.toList := by
  obtain ⟨hasked, hextends⟩ := asked_opened hq t s
  rw [← hasked]
  rcases hopened : opened h.traced t s with ⟨f | new, s₁⟩
  · simp only [scan, hpair.first, hopened]
    rfl
  · rw [hopened] at hextends
    obtain ⟨u, hnote, hlogged⟩ := exists_note_eq_ok hq.traced
      "Inserting new node...".toList s₁
    simp only [scan, hpair.first, hopened, isEndMarker_of_extends hextends hpair.second, if_true,
      hnote]
    exact asked_of_logged (s := s₁) (t := ⟨s₁.stash, u⟩) hlogged

/-- **A pass over a list that ends in a pair** asks for the equation of the pair. -/
theorem asked_element_pair (hq : h.NeverRefuses) {s : State (ω × List Call)} {m : Option Text}
    {p q e : Element} (before : List Element) (hchildren : e.children = before ++ [p, q])
    (hbefore : ∀ x ∈ before, startMarker? s.stash x = none ∧ x.children = [])
    (hpair : IsPair s.stash m p q) :
    asked (element h.traced e s).state =
      asked s ++ (m.bind fun t => (Marker.attributes t).toOption).toList := by
  cases m with
  | none =>
    have hsecond : startMarker? s.stash q = none :=
      startMarker?_of_isEndMarker (isEndMarker_of_extends (.refl _) hpair.second)
    have hplain : ∀ x ∈ Element.withinAll e.children, startMarker? s.stash x = none := by
      intro x hx
      rw [hchildren, Element.mem_withinAll] at hx
      obtain ⟨c, hc, hx⟩ := hx
      rw [Element.within_eq, List.mem_cons] at hx
      rcases List.mem_append.1 hc with hc | hc
      · obtain ⟨hnone, hleaf⟩ := hbefore c hc
        rw [hleaf] at hx
        rcases hx with rfl | hx
        · exact hnone
        · exact absurd hx List.not_mem_nil
      · simp only [List.mem_cons, List.not_mem_nil, or_false] at hc
        rcases hc with rfl | rfl
        · rcases hx with rfl | hx
          · exact hpair.first
          · exact hpair.below x hx
        · rw [hpair.leaf] at hx
          rcases hx with rfl | hx
          · exact hsecond
          · exact absurd hx List.not_mem_nil
    rw [element_of_unmarked h.traced e s hplain]
    exact (List.append_nil _).symm
  | some t =>
    have hleaves : ∀ x ∈ e.children, x.children = [] := by
      intro x hx
      rw [hchildren, List.mem_append] at hx
      rcases hx with hx | hx
      · exact (hbefore x hx).2
      · simp only [List.mem_cons, List.not_mem_nil, or_false] at hx
        rcases hx with rfl | rfl
        · exact children_of_startMarker? hpair.first
        · exact hpair.leaf
    rw [element_of_leaves h.traced hleaves, children, hchildren,
      scan_append h.traced (fun x hx => (hbefore x hx).1), asked_scan_pair hq hpair]
    rfl

/-- The report at the end of a pass asks for nothing. -/
theorem asked_run (root : Element) (s : State (ω × List Call)) :
    asked (run h.traced root s).state = asked (element h.traced root s).state := by
  unfold run
  simp only
  split
  · rfl
  · have hreport : ∀ n (s : State (ω × List Call)), asked (report h.traced n s).2 = asked s :=
      fun n s => by
        unfold report
        split
        · rfl
        · exact asked_of_logged (Host.logged_log h.traced .debug _ s.outside)
    have hlast := hreport (element h.traced root s).count (element h.traced root s).state
    split
    · rename_i heq
      rw [heq] at hlast
      exact hlast
    · rename_i heq
      rw [heq] at hlast
      exact hlast

end Pass

end MathPage
