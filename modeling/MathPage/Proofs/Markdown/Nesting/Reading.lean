import MathPage.Proofs.Equation.Asked
import MathPage.Proofs.Markdown.Inline.Comment
import MathPage.Proofs.Markdown.Inline.Rounds
import MathPage.Proofs.Markdown.Nesting.Blocks

/-!
# Reading two comments

* `Inline.standsFor?` – the HTML that a paragraph stands for when its text has been read;
* `Nesting.markerIn?` – the same, if it is a start marker;
* `Nesting.readRounds_pair` – a paragraph and the end marker behind it, anywhere in a tree;
* `Nesting.document_images`, `Nesting.document_quote`, `Nesting.document_list` – the three trees.
-/

namespace MathPage.Markdown

namespace Inline

/-- A paragraph after its text has been read, with the inline elements and the state. -/
def opened (t : Text) : Element × List Element × State :=
  openText (rules .extended {}) (Element.leaf "p" t) { stash := {} }

/-- The HTML that a paragraph with a text stands for when the text has been read: nothing but this
HTML must be left of it. -/
def standsFor? (t : Text) : Option Text :=
  let (e, inner, s) := opened t
  if inner.isEmpty && s.fault.isNone then s.stash.value? e else none

theorem opened_grows (t : Text) :
    State.Grows { stash := {} } (opened t).2.2 ∧ (∀ c ∈ (opened t).2.1, c.NoParagraph) ∧
      (opened t).1.tag = "p".toList ∧ (opened t).1.children = [] :=
  openText_noParagraph (rules_sound .extended {}) _ fun _ hn => absurd hn List.not_mem_nil

theorem opened_tail (t : Text) : (opened t).1.tail = none := by
  unfold opened openText
  split <;> rfl

/-- The end marker is moved into the stash. -/
theorem undisturbed_stop : Undisturbed "/equation".toList [] where
  toIsTag := Marker.isTag_stop
  last := by decide
  free := fun _ _ => List.not_mem_nil
  formula := Text.apart_of_not_mem List.not_mem_nil
  link := Text.apart_of_not_mem List.not_mem_nil

/-- A comment in a paragraph is moved into the stash. -/
theorem openText_comment {name behind : Text} (h : Undisturbed name behind) (s : State) :
    ∃ ns, openText (rules .extended {}) (Element.leaf "p" (Marker.comment name behind)) s =
      (Stash.image s.stash.entries.length, [],
        ⟨ns, (s.stash.store (.html (Marker.comment name behind))).2, s.fault⟩) := by
  obtain ⟨ns, hexpand⟩ := expand_comment h s
  refine ⟨ns, ?_⟩
  have htext : (Element.leaf "p" (Marker.comment name behind)).textD =
      Marker.comment name behind := rfl
  have hliteral : ((Element.leaf "p" (Marker.comment name behind)).literal ||
      (Marker.comment name behind).isEmpty) = false := rfl
  have hpresent : ∀ n, present (Stash.placeholder n) = some (Stash.placeholder n) := fun _ => rfl
  rw [openText, htext, hliteral, hexpand]
  simp only [Bool.false_eq_true, if_false, hpresent]
  rfl

theorem openText_placeholder (n : ℕ) (s : State) :
    openText (rules .extended {}) (Stash.image n) s = (Stash.image n, [], s) := by
  have htext : (Stash.image n).textD = Stash.placeholder n := rfl
  have hliteral : ((Stash.image n).literal || (Stash.placeholder n).isEmpty) = false := rfl
  have hpresent : present (Stash.placeholder n) = some (Stash.placeholder n) := rfl
  rw [openText, htext, hliteral, expand_placeholder]
  simp only [Bool.false_eq_true, if_false, hpresent]
  rfl

/-- A text without marks stays. -/
theorem openText_eq_self {t : Text} (h : ∀ c ∈ Stash.opening :: marks, c ∉ t) (s : State) :
    openText (rules .extended {}) (Element.leaf "p" t) s = (Element.leaf "p" t, [], s) := by
  have htext : (Element.leaf "p" t).textD = t := rfl
  unfold openText
  rw [htext]
  by_cases hempty : t.isEmpty
  · rw [hempty, Bool.or_true, if_pos rfl]
  · have hpresent : present t = some t := if_neg hempty
    have hliteral : ((Element.leaf "p" t).literal || t.isEmpty) = false := Bool.eq_false_iff.2 hempty
    rw [hliteral, expand_eq_self (fun c hc => h c (List.mem_cons_of_mem _ hc))
      (h _ List.mem_cons_self)]
    simp only [Bool.false_eq_true, if_false, hpresent]
    rfl

end Inline

namespace Nesting

open Inline Inline.Site

/-- The start marker that a paragraph with a text stands for when the text has been read. -/
def markerIn? (t : Text) : Option Text := (standsFor? t).filter Marker.isStart

/-- The end marker in the stash is no start marker. -/
theorem filter_value?_store (s : Stash) (e : Element) :
    ((s.store (.html Marker.stop)).2.value? e).filter Marker.isStart =
      (s.value? e).filter Marker.isStart := by
  have hstop : Marker.isStart Marker.stop = false := by decide
  rw [Stash.value?_eq, Stash.value?_eq]
  rcases Stash.place? e with _ | n
  · rfl
  · show Option.filter _ ((s.entries ++ [.html Marker.stop])[n]?.bind _) = _
    rcases Nat.lt_trichotomy n s.entries.length with hn | rfl | hn
    · rw [List.getElem?_append_left hn]
      rfl
    · rw [List.getElem?_concat_length, Option.bind_some, Option.bind_some,
        List.getElem?_eq_none le_rfl]
      simp [Stash.Entry.html?, hstop]
    · rw [List.getElem?_eq_none (by simpa using hn), Option.bind_some,
        List.getElem?_eq_none (by omega)]

theorem children_nil {e : Element} (h : e.children = []) : { e with children := [] } = e := by
  obtain ⟨tag, attributes, text, literal, children, tail⟩ := e
  obtain rfl : children = [] := h
  rfl

/-- The paragraph of the end marker when all text has been read. -/
def last (t : Text) : Element := Stash.image (opened t).2.2.stash.entries.length

/-- The sites of two paragraphs when their texts have been read. -/
def pair (t : Text) (below : List Site) : List Site :=
  [.mk (opened t).1 false below,
    .mk (last t) false []]

/-- The elements of a paragraph whose text has been read. -/
def inner (t : Text) : List Site := (opened t).2.1.map fun n => (ofElement n).mark

theorem readSiblings_pair (t : Text) (fuel : ℕ) :
    ∃ ns : Nodes, readSiblings (rules .extended {}) (fuel + 2)
        (ofElements [Element.leaf "p" t, Element.leaf "p" Marker.stop]) { stash := {} } =
      (pair t (inner t),
        ⟨ns, ((opened t).2.2.stash.store (.html Marker.stop)).2, (opened t).2.2.fault⟩) ∧
      ∀ n ∈ ns, n.NoParagraph := by
  have hsites : ofElements [Element.leaf "p" t, Element.leaf "p" Marker.stop] =
      [.mk (Element.leaf "p" t) false [], .mk (Element.leaf "p" Marker.stop) false []] := rfl
  have hopen : openText (rules .extended {}) (Element.leaf "p" t) { stash := {} } =
      ((opened t).1, (opened t).2.1, (opened t).2.2) := rfl
  obtain ⟨ns, hstop⟩ := openText_comment undisturbed_stop (opened t).2.2
  rw [← Marker.stop_eq_comment] at hstop
  have hnil : ∀ s, readSiblings (rules .extended {}) fuel [] s = ([], s) := fun s => by
    cases fuel <;> rfl
  refine ⟨ns, ?_, ?_⟩
  · rw [hsites, readSiblings_cons hopen (opened_tail t), readSiblings_cons hstop rfl, hnil]
    simp only [List.append_nil, List.isEmpty_nil, Bool.not_true, List.map_nil]
    rfl
  · have hnodes := (opened_grows t).1.nodes fun _ hn => absurd hn List.not_mem_nil
    have hgrows := (openText_noParagraph (rules_sound .extended {})
      (Element.leaf "p" Marker.stop) hnodes).1
    rw [hstop] at hgrows
    exact hgrows.nodes hnodes

theorem noParagraph_inner (t : Text) : ∀ e ∈ inner t, e.NoParagraph := fun e he => by
  obtain ⟨c, hc, rfl⟩ := List.mem_map.1 he
  rw [Site.NoParagraph, toElement_mark, toElement_ofElement]
  exact (opened_grows t).2.1 c hc

/-- A paragraph that keeps inline elements is no start marker. -/
theorem markerIn?_of_inner {t : Text} (ht : inner t ≠ []) : markerIn? t = none := by
  have hisEmpty : (opened t).2.1.isEmpty = false := by
    simpa [inner] using ht
  simp only [markerIn?, standsFor?, hisEmpty, Bool.false_and, Bool.false_eq_true, if_false]
  rfl

theorem markerIn?_of_fault {t : Text} (ht : (opened t).2.2.fault ≠ none) : markerIn? t = none := by
  have hfault : (opened t).2.2.fault.isNone = false :=
    Bool.eq_false_iff.2 fun h => ht (Option.isNone_iff_eq_none.1 h)
  simp only [markerIn?, standsFor?, hfault, Bool.and_false, Bool.false_eq_true, if_false]
  rfl

/-- Where the inline elements are read, or there are none, the paragraph is the start marker that is
in its text. -/
theorem startMarker?_read {t : Text} {es : List Site} {s : Stash}
    (hlength : es.length = (inner t).length)
    (hnone : inner t = [] → s = ((opened t).2.2.stash.store (.html Marker.stop)).2 ∧
      (opened t).2.2.fault = none) :
    Pass.startMarker? s { (opened t).1 with children := toElements es } = markerIn? t := by
  by_cases hinner : inner t = []
  · obtain ⟨rfl, hfault⟩ := hnone hinner
    obtain rfl : es = [] := List.length_eq_zero_iff.1 (by rw [hlength, hinner]; rfl)
    have hne : (opened t).2.1 = [] := List.map_eq_nil_iff.1 hinner
    have hstands : standsFor? t = (opened t).2.2.stash.value? (opened t).1 := by
      simp only [standsFor?, hne, hfault]
      rfl
    have hsame : ({ (opened t).1 with children := toElements [] } : Element) = (opened t).1 :=
      children_nil (opened_grows t).2.2.2
    rw [hsame, markerIn?, hstands]
    exact filter_value?_store _ _
  · have hchildren : toElements es ≠ [] := fun h => by
      rw [toElements_eq_map, List.map_eq_nil_iff] at h
      rw [h] at hlength
      exact hinner (List.length_eq_zero_iff.1 hlength.symm)
    rw [markerIn?_of_inner hinner, Pass.startMarker?, Stash.value?_eq,
      Stash.place?_eq_none_of_children hchildren]
    rfl

/-- Among elements without paragraphs there is no start marker. -/
theorem startMarker?_of_noParagraph {es : List Site} (hes : ∀ e ∈ es, e.NoParagraph) (s : Stash)
    {x : Element} (hx : x ∈ Element.withinAll (toElements es)) : Pass.startMarker? s x = none := by
  obtain ⟨c, hc, hx⟩ := Element.mem_withinAll.1 hx
  rw [toElements_eq_map] at hc
  obtain ⟨e, he, rfl⟩ := List.mem_map.1 hc
  have htag : x.hasTag "p" = false := hes e he x hx
  rw [Pass.startMarker?, Stash.value?, htag]
  rfl

/-- **All further rounds over the two paragraphs**, anywhere in a tree. -/
theorem readRounds_pair {D : List Site → Site} (hD : Frame D) (t : Text) (fuel n : ℕ) {ns : Nodes}
    (hns : ∀ n ∈ ns, n.NoParagraph) :
    ∃ es s, readRounds (rules .extended {}) fuel n (D (inner t))
        ⟨ns, ((opened t).2.2.stash.store (.html Marker.stop)).2, (opened t).2.2.fault⟩ =
          (D es, s) ∧
      (s.fault = none → Pass.IsPair s.stash (markerIn? t)
        { (opened t).1 with children := toElements es } (last t)) ∧
      (s.fault ≠ none → markerIn? t = none) := by
  set s₁ : State := ⟨ns, ((opened t).2.2.stash.store (.html Marker.stop)).2, (opened t).2.2.fault⟩
    with hs₁
  obtain ⟨es, s, hread, hgrows, hes, hlength, hnil⟩ :=
    hD.readRounds (s := s₁) (rules_sound .extended {}) fuel n (noParagraph_inner t) hns
  have hlast : s.stash.value? (last t) = some Marker.stop := by
    have hlt : (opened t).2.2.stash.entries.length < s₁.stash.entries.length := by
      rw [hs₁]
      simp [Stash.store]
    rw [last, Stash.value?_image, hgrows.stash.getElem? hlt]
    simp [hs₁, Stash.store, Stash.Entry.html?]
  refine ⟨es, s, hread, fun hfault => ⟨startMarker?_read hlength fun hinner => ?_,
    fun x => startMarker?_of_noParagraph hes _, ⟨Marker.stop, hlast, by decide⟩, rfl⟩, fun hfault => ?_⟩
  · obtain rfl := hnil hinner
    exact ⟨rfl, hfault⟩
  · by_cases hinner : inner t = []
    · obtain rfl := hnil hinner
      exact markerIn?_of_fault hfault
    · exact markerIn?_of_inner hinner

/-- The two paragraphs among the children of an element that is read next. -/
theorem readRounds_host {C : List Site → Site} (hC : Frame C) (t : Text) (w : Element)
    {sites : List Site} (before : List Site) (hsites : anyDue sites = false) (hbefore : anyDue before = false)
    {ns : Nodes} (hns : ∀ n ∈ ns, n.NoParagraph) {fuel : ℕ}
    (hread : readSiblings (rules .extended {}) fuel sites { stash := {} } =
      (before ++ pair t (inner t),
        ⟨ns, ((opened t).2.2.stash.store (.html Marker.stop)).2, (opened t).2.2.fault⟩)) (n : ℕ) :
    ∃ es s, readRounds (rules .extended {}) fuel (n + 1) (C [.mk w true sites]) { stash := {} } =
          (C [.mk w false (before ++ pair t es)], s) ∧
      (s.fault = none → Pass.IsPair s.stash (markerIn? t)
        { (opened t).1 with children := toElements es } (last t)) ∧
      (s.fault ≠ none → markerIn? t = none) := by
  have hdue : (C [.mk w true sites]).isDue = true := hC.isDue _
  have hframe : Frame fun below => .mk w false (before ++ pair t below) :=
    .inside w before _ (.here (opened t).1) hbefore rfl
  obtain ⟨es, s, hrounds, hread', hfault⟩ := readRounds_pair (hC.comp hframe) t fuel n hns
  refine ⟨es, s, ?_, hread', hfault⟩
  rw [readRounds_succ hdue, hC.round, roundAll_due hsites, hread]
  exact hrounds

/-! ### The trees -/

/-- The outcome of all rounds over a tree that holds the two paragraphs. -/
theorem document_of_rounds {root : Element} {size : ℕ} {t : Text} {F : Element → Element → Element}
    (h : ∃ es site s, readRounds (rules .extended {}) (4 * size + 16) (4 * size + 16)
        (ofElement root).mark { stash := {} } = (site, s) ∧
      site.toElement = F { (opened t).1 with children := toElements es } (last t) ∧
      (s.fault = none → Pass.IsPair s.stash (markerIn? t)
        { (opened t).1 with children := toElements es } (last t)) ∧
      (s.fault ≠ none → markerIn? t = none)) :
    (∃ p q s, document .extended {} size root {} = .ok (F p q, s) ∧
        Pass.IsPair s (markerIn? t) p q) ∨
      ∃ f, document .extended {} size root {} = .error f ∧ markerIn? t = none := by
  obtain ⟨es, site, s, hrounds, hsite, hok, hfault⟩ := h
  unfold document
  simp only [hrounds]
  cases hf : s.fault with
  | none => exact Or.inl ⟨_, _, s.stash, by rw [hsite], hok hf⟩
  | some f => exact Or.inr ⟨f, rfl, hfault (by rw [hf]; exact Option.some_ne_none f)⟩

/-- The sites of paragraphs that stand for pieces. -/
def imageSites (ns : List ℕ) : List Site := ns.map fun n => .mk (Stash.image n) false []

theorem ofElements_images (ns : List ℕ) : ofElements (ns.map Stash.image) = imageSites ns := by
  induction ns with
  | nil => rfl
  | cons n ns ih => exact congrArg (_ :: ·) ih

theorem anyDue_imageSites (ns : List ℕ) : anyDue (imageSites ns) = false := by
  induction ns with
  | nil => rfl
  | cons n ns ih => exact ih

theorem readSiblings_imageSites (ns : List ℕ) {fuel : ℕ} (hfuel : ns.length ≤ fuel) (s : State) :
    readSiblings (rules .extended {}) fuel (imageSites ns) s = (imageSites ns, s) := by
  induction ns generalizing fuel with
  | nil => cases fuel <;> rfl
  | cons n ns ih =>
    rw [List.length_cons] at hfuel
    obtain ⟨fuel, rfl⟩ := Nat.exists_eq_succ_of_ne_zero (by omega : fuel ≠ 0)
    have hsites : imageSites (n :: ns) = .mk (Stash.image n) false [] :: imageSites ns := rfl
    rw [hsites, readSiblings_cons (openText_placeholder n s) rfl,
      ih (Nat.le_of_succ_le_succ hfuel)]
    rfl

/-- **Reading placeholders** changes nothing. -/
theorem document_images (ns : List ℕ) (hns : ns.length ≤ 16) (size : ℕ) (s : Stash) :
    document .extended {} size (.node "div" (ns.map Stash.image)) s =
      .ok (.node "div" (ns.map Stash.image), s) := by
  have hstart : (ofElement (.node "div" (ns.map Stash.image))).mark =
      .mk (.node "div" []) true (imageSites ns) := by
    rw [← ofElements_images]
    rfl
  have hround : Site.round (rules .extended {}) (4 * size + 16)
      (.mk (.node "div" []) true (imageSites ns)) { stash := s } =
        (.mk (.node "div" []) false (imageSites ns), { stash := s }) := by
    rw [Site.round, roundAll_eq_self _ _ _ _ (anyDue_imageSites ns)]
    simp only [if_true, readSiblings_imageSites ns (by omega : ns.length ≤ 4 * size + 16)]
  have hdone : (Site.mk (.node "div" []) false (imageSites ns)).isDue = false :=
    (Frame.here _).isDue _ |>.trans (anyDue_imageSites ns)
  have helement : (Site.mk (.node "div" []) false (imageSites ns)).toElement =
      .node "div" (ns.map Stash.image) := by
    rw [Site.toElement, ← ofElements_images, toElements_ofElements]
    rfl
  unfold document
  simp only
  rw [hstart, readRounds_succ rfl, hround, readRounds_of_not_due hdone]
  simp only [helement]

/-- **Reading two paragraphs of a quote.** -/
theorem document_quote (t : Text) (size : ℕ) :
    let root := quote (Element.leaf "p" t) (Element.leaf "p" Marker.stop)
    (∃ p q s, document .extended {} size root {} = .ok (quote p q, s) ∧
        Pass.IsPair s (markerIn? t) p q) ∨
      ∃ f, document .extended {} size root {} = .error f ∧ markerIn? t = none := by
  intro root
  have hstart : (ofElement root).mark =
      .mk (.node "div" []) true [.mk (.node "blockquote" []) false
        (ofElements [Element.leaf "p" t, Element.leaf "p" Marker.stop])] := rfl
  obtain ⟨ns, hread, hns⟩ := readSiblings_pair t (4 * size + 14)
  obtain ⟨es, s, hrounds, hok, hfault⟩ := readRounds_host (.here (.node "div" [])) t
    (.node "blockquote" []) [] rfl rfl hns hread (4 * size + 14)
  have hall : readRounds (rules .extended {}) (4 * size + 16) (4 * size + 16)
      (ofElement root).mark { stash := {} } =
        (.mk (.node "div" []) false [.mk (.node "blockquote" []) false (pair t es)], s) := by
    rw [hstart, readRounds_succ rfl, round_empty rfl rfl rfl rfl]
    exact hrounds
  exact document_of_rounds ⟨es, _, s, hall, rfl, hok, hfault⟩

/-- **Reading two paragraphs of a list item.** -/
theorem document_list (t : Text) (size : ℕ) :
    let root := list (Element.leaf "p" t) (Element.leaf "p" Marker.stop)
    (∃ p q s, document .extended {} size root {} = .ok (list p q, s) ∧
        Pass.IsPair s (markerIn? t) p q) ∨
      ∃ f, document .extended {} size root {} = .error f ∧ markerIn? t = none := by
  intro root
  have hstart : (ofElement root).mark =
      .mk (.node "div" []) true [.mk (.node "ul" []) false [.mk bareItem false
        (.mk (Element.leaf "p" "item".toList) false [] ::
          ofElements [Element.leaf "p" t, Element.leaf "p" Marker.stop])]] := rfl
  obtain ⟨ns, hpair, hns⟩ := readSiblings_pair t (4 * size + 13)
  have hread := readSiblings_cons (openText_eq_self (t := "item".toList) (by decide) { stash := {} })
    rfl (4 * size + 15) false [] (ofElements [Element.leaf "p" t, Element.leaf "p" Marker.stop])
  rw [hpair] at hread
  obtain ⟨es, s, hrounds, hok, hfault⟩ := readRounds_host
    (.inside (.node "div" []) [] [] (.here (.node "ul" [])) rfl rfl) t bareItem
    [.mk (Element.leaf "p" "item".toList) false []] rfl rfl hns hread (4 * size + 13)
  have hall : readRounds (rules .extended {}) (4 * size + 16) (4 * size + 16)
      (ofElement root).mark { stash := {} } =
        (.mk (.node "div" []) false [.mk (.node "ul" []) false [.mk bareItem false
          (.mk (Element.leaf "p" "item".toList) false [] :: pair t es)]], s) := by
    rw [hstart, readRounds_succ rfl, round_empty rfl rfl rfl rfl,
      readRounds_succ rfl, (Frame.here (.node "div" [])).round]
    simp only [roundAll]
    rw [round_empty rfl rfl rfl rfl]
    exact hrounds
  exact document_of_rounds ⟨es, _, s, hall, rfl, hok, hfault⟩

end Nesting

end MathPage.Markdown
