import MathPage.Proofs.Document.Restore
import MathPage.Proofs.Equation.Block
import MathPage.Proofs.Markdown.Host
import MathPage.Proofs.Markdown.Nesting.Agreement
import MathPage.Proofs.Markdown.RawHtml.Content

/-!
# The pages of an equation

* `conversion` – what a text is converted to with a renderer that answers by the equation alone, and
  the equations that it is asked for;
* `Nesting.IsFigure` – an element that a renderer may answer with;
* `Nesting.conversion_standing`, `Nesting.conversion_quoted`, `Nesting.conversion_listed` – the pages of
  an equation of the document, of a quote and of a list item: the figure stands between the markers.
-/

namespace MathPage.Markdown

/-! ### Conversions -/

/-- What a text is converted to with a renderer that answers by the equation alone, and the equations
that the renderer is asked for. -/
def conversion (f : Equation → Text) (t : Text) : Except Failure Text × List Equation :=
  ((render (Host.drawer f) t []).1, (render (Host.drawer f) t []).2.map Call.equation)

variable {f : Equation → Text}

/-- Every conversion with such a renderer is this one. -/
theorem conversion_eq {ω : Type} {h : Host ω} (hq : h.NeverRefuses)
    (hf : ∀ e w, (h.render e w).1 = .ok (some (f e))) (t : Text) (w : ω) :
    conversion f t = ((render h t w).1, equations h t w) := by
  have hdrawer : render (Host.drawer f) t [] =
      ((render h.traced t (w, [])).1, (render h.traced t (w, [])).2.2) :=
    render_over (Host.traced_over_recorder hq hf) t (w, [])
  have hhost : render h t w = ((render h.traced t (w, [])).1, (render h.traced t (w, [])).2.1) :=
    render_over h.traced_over t (w, [])
  rw [conversion, hdrawer, hhost, equations]

/-- The text of a tree in which the placeholders still stand. -/
def laidOut (s : Stash) (root : Element) : Except MarkupFault Text :=
  (arrange .extended {} s root).map fun e =>
    Text.strip (Markup.content e.textD ++ Element.markups e.children)

theorem write_of_slotted {s : Stash} {root : Element} {t t' : Text}
    (hroot : laidOut s root = .ok t) (ht : s.Slotted t t') :
    write .extended {} s root = .ok (Text.strip t') := by
  unfold laidOut at hroot
  unfold write
  cases harrange : arrange .extended {} s root with
  | error fault =>
    rw [harrange] at hroot
    cases hroot
  | ok e =>
    rw [harrange] at hroot
    rw [← ht.finish, ← Except.ok.inj hroot]
    rfl

/-- The conversion of a text that makes a tree. -/
theorem conversion_of_tree {t : Text} (hblank : Text.allBlank t = false) {root : Element} {s : Stash}
    (htree : tree .extended t {} {} = .ok (root, {}, s)) {p : Pass.Progress (List Call) Element}
    (hpass : Pass.element (Host.drawer f) root ⟨s, []⟩ = p) :
    conversion f t = (match p.failure with
        | some failure => .error (failure.beyond .generator)
        | none => outcome (write .extended {} p.state.stash p.made),
      p.state.outside.map Call.equation) := by
  have hrender : render (Host.drawer f) t [] =
      ((convert .extended (Host.drawer f) t { outside := [] }).1,
        (convert .extended (Host.drawer f) t { outside := [] }).2.outside) := rfl
  have hrun : Pass.run (Host.drawer f) root ⟨s, []⟩ = p.beyond := by
    rw [← hpass]
    exact Pass.run_recorder _ root _
  rw [conversion, hrender]
  unfold convert
  simp only [hblank, Bool.false_eq_true, if_false, htree, hrun, Pass.Progress.beyond]
  cases p.failure <;> rfl

/-- A tree with one block, whose figure is written between the markers. -/
theorem conversion_of_block {t : Text} (hblank : Text.allBlank t = false) {root made : Element}
    {s : Stash} (htree : tree .extended t {} {} = .ok (root, {}, s)) {n : ℕ} {e : Equation}
    (hpass : Pass.element (Host.drawer f) root ⟨s, []⟩ =
      ⟨made, n, none, (⟨s, []⟩ : Pass.State _).after [Call.drawn f e]⟩) {v out : Text}
    (hmade : laidOut ⟨s.entries ++ [.html (f e)]⟩ made = .ok v)
    (hslots : Stash.Slotted ⟨s.entries ++ [.html (f e)]⟩ v out) :
    conversion f t = (.ok (Text.strip out), [e]) := by
  have hwrite := write_of_slotted hmade hslots
  have hstash : ((⟨s, []⟩ : Pass.State _).after [Call.drawn f e]).stash =
      ⟨s.entries ++ [.html (f e)]⟩ := rfl
  have hcalls : ((⟨s, []⟩ : Pass.State _).after [Call.drawn f e]).outside.map Call.equation = [e] :=
    rfl
  rw [conversion_of_tree hblank htree hpass]
  simp only [hstash, hcalls, hwrite]
  rfl

namespace Nesting

open Inline Inline.Site
open Stash (image slot)
open Marker (IsComment)

/-! ### Figures -/

/-- An element that a renderer may answer with: it begins and ends with the tags of an element on
lines of its own, and its lines are printable, hold more than spaces and open no fence. -/
structure IsFigure (t : Text) : Prop where
  element : RawHtml.IsElement t
  block : Stash.isBlockHtml t = true
  lines : ∀ l ∈ Text.lines t, IsUnfenced l

variable {t : Text}

theorem IsFigure.isPiece (h : IsFigure t) : Stash.IsPiece t where
  block := h.block
  opening_not_mem := fun hmem => by
    obtain ⟨l, hl, hmem⟩ := (Text.exists_mem_splitChar_iff (s := '\n') (by decide)).2 hmem
    exact (h.lines l hl).1.not_mem (by decide) hmem

/-- What an element is written between. -/
theorem exists_between_brackets (h : RawHtml.IsElement t) :
    ∃ c u, t = '<' :: c :: (u ++ ['>']) ∧ c ≠ '!' := by
  obtain ⟨e, inner, rfl, -⟩ := h
  obtain ⟨c, name, hname⟩ : ∃ c name, e.name = c :: name := by
    cases hname : e.name with
    | nil =>
      have hletter := e.letter
      rw [hname] at hletter
      cases hletter
    | cons c name => exact ⟨c, name, rfl⟩
  refine ⟨c, name ++ RawHtml.Tag.attributes e.fields ++ ['>'] ++ inner ++ "</".toList ++ e.name, ?_, ?_⟩
  · simp [RawHtml.Tag.opened, RawHtml.Tag.head, RawHtml.Tag.closed, hname]
  · have hletter : Text.isLetter c = true := by
      have hname' := e.letter
      rwa [hname] at hname'
    rintro rfl
    exact absurd hletter (by decide)

theorem IsFigure.strip (h : IsFigure t) : Text.strip t = t := by
  obtain ⟨c, u, rfl, -⟩ := exists_between_brackets h.element
  exact Text.strip_eq_self (t := c :: u) (by decide) (by decide)

/-- A figure is no end marker. -/
theorem IsFigure.isEnd (h : IsFigure t) : Marker.isEnd t = false := by
  obtain ⟨c, u, ht, hc⟩ := exists_between_brackets h.element
  rw [Marker.isEnd, h.strip, ht]
  refine beq_eq_false_iff_ne.2 fun heq => hc ?_
  exact (List.cons.inj (List.cons.inj heq).2).1

/-! ### Comments of quotes and list items -/

variable {name behind : Text}

/-- All rounds over elements whose text holds no elements. -/
theorem readRounds_leaves {C : List Site → Site} (hC : Frame C) {rules : List Rule} {w : Element}
    {sites sites' : List Site} {s s' : State} {fuel : ℕ} (hsites : anyDue sites = false)
    (hread : readSiblings rules fuel sites s = (sites', s')) (hsites' : anyDue sites' = false)
    (n : ℕ) : readRounds rules fuel (n + 1) (C [.mk w true sites]) s =
      (C [.mk w false sites'], s') := by
  have hdue : (C [.mk w true sites]).isDue = true := hC.isDue _
  have hdone : (C [.mk w false sites']).isDue = false := by
    rw [hC.isDue]
    simp [anyDue, Site.isDue, hsites']
  rw [readRounds_succ hdue, hC.round, roundAll_due hsites, hread, readRounds_of_not_due hdone]

/-- Two comments are moved into the stash one after the other. -/
theorem readSiblings_comments (h : Undisturbed name behind) (fuel : ℕ) :
    ∃ ns : Nodes, readSiblings (rules .extended {}) (fuel + 2)
        (ofElements [Element.leaf "p" (Marker.comment name behind), Element.leaf "p" Marker.stop])
        { stash := {} } =
      ([.mk (image 0) false [], .mk (image 1) false []],
        ⟨ns, ⟨[.html (Marker.comment name behind), .html Marker.stop]⟩, none⟩) := by
  have hsites : ofElements [Element.leaf "p" (Marker.comment name behind),
      Element.leaf "p" Marker.stop] =
        [.mk (Element.leaf "p" (Marker.comment name behind)) false [],
          .mk (Element.leaf "p" Marker.stop) false []] := rfl
  have hnil : ∀ s, readSiblings (rules .extended {}) fuel [] s = ([], s) := fun s => by
    cases fuel <;> rfl
  obtain ⟨ns, hfirst⟩ := openText_comment h { stash := {} }
  obtain ⟨ns', hsecond⟩ := openText_comment undisturbed_stop
    ⟨ns, ⟨[.html (Marker.comment name behind)]⟩, none⟩
  rw [← Marker.stop_eq_comment] at hsecond
  have hfirst' : openText (rules .extended {}) (Element.leaf "p" (Marker.comment name behind))
      { stash := {} } = (image 0, [], ⟨ns, ⟨[.html (Marker.comment name behind)]⟩, none⟩) := hfirst
  refine ⟨ns', ?_⟩
  rw [hsites, readSiblings_cons hfirst' rfl, readSiblings_cons hsecond rfl, hnil]
  rfl

/-- **Reading two comments of a quote.** -/
theorem document_quote_comments (h : Undisturbed name behind) (size : ℕ) :
    document .extended {} size
        (quote (Element.leaf "p" (Marker.comment name behind)) (Element.leaf "p" Marker.stop)) {} =
      .ok (quote (image 0) (image 1),
        ⟨[.html (Marker.comment name behind), .html Marker.stop]⟩) := by
  have hstart : (ofElement (quote (Element.leaf "p" (Marker.comment name behind))
      (Element.leaf "p" Marker.stop))).mark =
        .mk (.node "div" []) true [.mk (.node "blockquote" []) false
          (ofElements [Element.leaf "p" (Marker.comment name behind),
            Element.leaf "p" Marker.stop])] := rfl
  obtain ⟨ns, hread⟩ := readSiblings_comments h (4 * size + 14)
  have hrounds := readRounds_leaves (.here (.node "div" [])) (w := .node "blockquote" []) rfl hread
    rfl (4 * size + 14)
  unfold document
  simp only
  rw [hstart, readRounds_succ rfl, round_empty rfl rfl rfl rfl, hrounds]
  rfl

/-- **Reading two comments of a list item.** -/
theorem document_list_comments (h : Undisturbed name behind) (size : ℕ) :
    document .extended {} size
        (list (Element.leaf "p" (Marker.comment name behind)) (Element.leaf "p" Marker.stop)) {} =
      .ok (list (image 0) (image 1),
        ⟨[.html (Marker.comment name behind), .html Marker.stop]⟩) := by
  have hstart : (ofElement (list (Element.leaf "p" (Marker.comment name behind))
      (Element.leaf "p" Marker.stop))).mark =
        .mk (.node "div" []) true [.mk (.node "ul" []) false [.mk bareItem false
          (.mk (Element.leaf "p" "item".toList) false [] ::
            ofElements [Element.leaf "p" (Marker.comment name behind),
              Element.leaf "p" Marker.stop])]] := rfl
  obtain ⟨ns, hcomments⟩ := readSiblings_comments h (4 * size + 13)
  have hread := readSiblings_cons (openText_eq_self (t := "item".toList) (by decide) { stash := {} })
    rfl (4 * size + 15) false [] (ofElements [Element.leaf "p" (Marker.comment name behind),
      Element.leaf "p" Marker.stop])
  rw [hcomments] at hread
  have hframe : Frame fun below => .mk (.node "div" []) false [.mk (.node "ul" []) false below] :=
    .inside (.node "div" []) [] [] (.here (.node "ul" [])) rfl rfl
  have hrounds := readRounds_leaves hframe (w := bareItem) rfl hread rfl (4 * size + 13)
  unfold document
  simp only
  rw [hstart, readRounds_succ rfl, round_empty rfl rfl rfl rfl,
    readRounds_succ rfl, (Frame.here (.node "div" [])).round]
  simp only [roundAll]
  rw [round_empty rfl rfl rfl rfl, hrounds]
  rfl

/-! ### The pages -/

/-- The page of two comments that stand in the document, with a figure between them. -/
def standingPage (a x b : Text) : Text := Text.unlines [a, [], x, b]

/-- The same for a quote. -/
def quotedPage (a x b : Text) : Text :=
  Text.unlines ["<blockquote>".toList, a, x, b, "</blockquote>".toList]

/-- The same for a list item. -/
def listedPage (a x b : Text) : Text :=
  Text.unlines ["<ul>".toList, "<li>".toList, "<p>item</p>".toList, a, x, b, "</li>".toList,
    "</ul>".toList]

theorem standingPage_eq (a x b : Text) :
    standingPage a x b = a ++ '\n' :: '\n' :: (x ++ '\n' :: b) := by
  simp [standingPage, Text.unlines, Text.join]

/-- Two comments with a line end behind each of them, and the figure. -/
theorem strip_pieces {a b : Text} (ha : IsComment a) (hb : IsComment b) (x : Text) :
    Text.strip ([] ++ (a ++ ['\n'] ++ '\n' :: (x ++ '\n' :: (b ++ ['\n'] ++ [])))) =
      standingPage a x b := by
  obtain ⟨u, hu⟩ := ha.exists_cons
  obtain ⟨v, hv⟩ : ∃ v, b = v ++ ['>'] := by
    obtain ⟨v, rfl, -⟩ := hb
    exact ⟨"<!--".toList ++ (v ++ "--".toList), by simp⟩
  have hblank : [] ++ (a ++ ['\n'] ++ '\n' :: (x ++ '\n' :: (b ++ ['\n'] ++ []))) =
      [] ++ standingPage a x b ++ ['\n'] := by
    simp [standingPage_eq]
  have hpage : standingPage a x b = '<' :: (u ++ '\n' :: '\n' :: (x ++ '\n' :: v)) ++ ['>'] := by
    rw [standingPage_eq, hu, hv]
    simp
  rw [hblank, Text.strip_append (by simp) (by decide), hpage,
    Text.strip_eq_self (by decide) (by decide)]

theorem quotedPage_eq (a x b : Text) : quotedPage a x b =
    "<blockquote>\n".toList ++ (a ++ '\n' :: (x ++ '\n' :: (b ++ "\n</blockquote>".toList))) := by
  simp [quotedPage, Text.unlines, Text.join]

theorem listedPage_eq (a x b : Text) : listedPage a x b =
    "<ul>\n<li>\n<p>item</p>\n".toList ++
      (a ++ '\n' :: (x ++ '\n' :: (b ++ "\n</li>\n</ul>".toList))) := by
  simp [listedPage, Text.unlines, Text.join]

/-- There is no blank at the ends of a text between two tags. -/
theorem strip_between_brackets (p t q : Text) :
    Text.strip ('<' :: p ++ (t ++ (q ++ ['>']))) = '<' :: p ++ (t ++ (q ++ ['>'])) := by
  have hsplit : '<' :: p ++ (t ++ (q ++ ['>'])) = '<' :: (p ++ (t ++ q)) ++ ['>'] := by simp
  rw [hsplit, Text.strip_eq_self (by decide) (by decide)]

theorem strip_quotedPage (a x b : Text) : Text.strip (quotedPage a x b) = quotedPage a x b := by
  have hsplit : quotedPage a x b = '<' :: "blockquote>\n".toList ++
      ((a ++ '\n' :: (x ++ '\n' :: b)) ++ ("\n</blockquote".toList ++ ['>'])) := by
    simp [quotedPage_eq]
  rw [hsplit, strip_between_brackets]

theorem strip_listedPage (a x b : Text) : Text.strip (listedPage a x b) = listedPage a x b := by
  have hsplit : listedPage a x b = '<' :: "ul>\n<li>\n<p>item</p>\n".toList ++
      ((a ++ '\n' :: (x ++ '\n' :: b)) ++ ("\n</li>\n</ul".toList ++ ['>'])) := by
    simp [listedPage_eq]
  rw [hsplit, strip_between_brackets]

theorem isPiece_start {e : Equation} (he : Marker.Writable e) {u : Text} (hu : Stash.opening ∉ u) :
    Stash.IsPiece (Marker.start e ++ u) where
  block := rfl
  opening_not_mem := fun hmem => (List.mem_append.1 hmem).elim
    (he.isComment_start.not_mem_of_isHidden (by decide)) hu

theorem isPiece_stop {u : Text} (hu : Stash.opening ∉ u) : Stash.IsPiece (Marker.stop ++ u) where
  block := rfl
  opening_not_mem := fun hmem => (List.mem_append.1 hmem).elim
    (Marker.isComment_stop.not_mem_of_isHidden (by decide)) hu

/-- Three pieces, each behind the one before on a line of its own. -/
theorem slotted_three {s : Stash} {a x b p q : Text} {i j k : ℕ}
    (hp : Stash.opening ∉ p) (hq : Stash.opening ∉ q)
    (hi : s.entries[i]? = some (.html a)) (ha : Stash.IsPiece a)
    (hj : s.entries[j]? = some (.html x)) (hx : Stash.IsPiece x)
    (hk : s.entries[k]? = some (.html b)) (hb : Stash.IsPiece b) :
    s.Slotted (p ++ (slot i ++ ('\n' :: (slot j ++ ('\n' :: (slot k ++ q))))))
      (p ++ (a ++ ('\n' :: (x ++ ('\n' :: (b ++ q)))))) := by
  have hline : Stash.opening ∉ ['\n'] := by decide
  exact .slot hp hi ha (.slot hline hj hx (.slot hline hk hb (.last hq)))

/-- The item of a list with elements behind its text. -/
def item (es : List Element) : Element :=
  { bareItem with children := Element.leaf "p" "item".toList :: es }

theorem element_list {e : Equation} {s : Stash} {m : Text} (hs : s.entries.length = 2)
    (hblock : Pass.IsBlock s m 0 none 1) (hm : Marker.attributes m = .ok e) :
    Pass.element (Host.drawer f) (list (image 0) (image 1)) ⟨s, []⟩ =
      ⟨.node "div" [.node "ul" [item [image 0, image 2, image 1]]], 1, none,
        (⟨s, []⟩ : Pass.State _).after [Call.drawn f e]⟩ := by
  have hplain : ∀ x ∈ [Element.leaf "p" "item".toList],
      Pass.startMarker? s x = none ∧ x.children = [] := fun x hx => by
    rw [List.mem_singleton.1 hx]
    exact ⟨rfl, rfl⟩
  have hbelow := Pass.element_block (f := f) (e := item [image 0, image 1])
    (u := ⟨s, []⟩) [Element.leaf "p" "item".toList] rfl hplain hblock hm
  have hlist : list (image 0) (image 1) = .node "div" [.node "ul" [item [image 0, image 1]]] := rfl
  rw [hlist, Pass.element_of_child (c := .node "ul" [item [image 0, image 1]]) _ rfl rfl,
    Pass.element_of_child (c := item [image 0, image 1]) _ rfl rfl, hbelow]
  simp only [hs]
  rfl

set_option maxRecDepth 2000 in
theorem laidOut_list (s : Stash) :
    laidOut s (.node "div" [.node "ul" [item [image 0, image 2, image 1]]]) =
      .ok ("<ul>\n<li>\n<p>item</p>\n".toList ++ (slot 0 ++ '\n' :: (slot 2 ++ '\n' ::
        (slot 1 ++ "\n</li>\n</ul>".toList)))) := rfl

section

variable {e e' : Equation} (he : Marker.Writable e) (ha : Marker.attributes (Marker.start e) = .ok e')
  (hf : IsFigure (f e'))
include he ha hf

/-- **The page of an equation of the document.** -/
theorem conversion_standing : conversion f (standing (Marker.start e) Marker.stop) =
    (.ok (standingPage (Marker.start e) (f e') Marker.stop), [e']) := by
  let s : Stash := ⟨[.html (Marker.start e ++ ['\n']), .html (Marker.stop ++ ['\n'])]⟩
  have hblock : Pass.IsBlock s (Marker.start e ++ ['\n']) 0 none 1 :=
    ⟨rfl, Marker.isStart_start he _, by simp, ⟨_, rfl, by decide⟩⟩
  have hpass := Pass.element_block (f := f) (e := page (image 0) (image 1))
    (u := ⟨s, []⟩) [] rfl (by simp) hblock (Marker.attributes_append ha _)
  have hmade : laidOut ⟨s.entries ++ [.html (f e')]⟩ (.node "div" [image 0, image 2, image 1]) =
      .ok ([] ++ (slot 0 ++ ('\n' :: (slot 2 ++ ('\n' :: (slot 1 ++ [])))))) := rfl
  have hslots : Stash.Slotted ⟨s.entries ++ [.html (f e')]⟩ _ _ :=
    slotted_three (p := []) (q := []) (by decide) (by decide) (i := 0) rfl
      (isPiece_start he (by decide)) (j := 2) rfl hf.isPiece (k := 1) rfl (isPiece_stop (by decide))
  have hblank : Text.allBlank (standing (Marker.start e) Marker.stop) = false := rfl
  rw [conversion_of_block hblank (tree_standing he.isComment_start Marker.isComment_stop) hpass
    hmade hslots, strip_pieces he.isComment_start Marker.isComment_stop]

omit ha in
/-- The markers and the figure inside of an element. -/
theorem slotted_markers {p q : Text} (hp : Stash.opening ∉ p) (hq : Stash.opening ∉ q) :
    Stash.Slotted ⟨[.html (Marker.start e), .html Marker.stop, .html (f e')]⟩
      (p ++ (slot 0 ++ '\n' :: (slot 2 ++ '\n' :: (slot 1 ++ q))))
      (p ++ (Marker.start e ++ '\n' :: (f e' ++ '\n' :: (Marker.stop ++ q)))) := by
  have hstart := isPiece_start he (u := []) List.not_mem_nil
  have hstop := isPiece_stop (u := []) List.not_mem_nil
  rw [List.append_nil] at hstart hstop
  exact slotted_three hp hq rfl hstart rfl hf.isPiece rfl hstop

omit ha hf in
theorem isBlock_markers :
    Pass.IsBlock ⟨[.html (Marker.start e), .html Marker.stop]⟩ (Marker.start e) 0 none 1 where
  start := rfl
  isStart := by simpa using Marker.isStart_start he []
  between := by simp
  stop := ⟨_, rfl, by decide⟩

/-- **The page of an equation of a quote.** -/
theorem conversion_quoted (hcalm : Undisturbed "equation".toList (Marker.fields e)) :
    conversion f (quoted (Marker.start e) Marker.stop) =
      (.ok (quotedPage (Marker.start e) (f e') Marker.stop), [e']) := by
  let s : Stash := ⟨[.html (Marker.start e), .html Marker.stop]⟩
  have hbelow := Pass.element_block (f := f) (e := .node "blockquote" [image 0, image 1])
    (u := ⟨s, []⟩) [] rfl (by simp) (isBlock_markers he) ha
  have hpass := Pass.element_of_child (Host.drawer f) (e := quote (image 0) (image 1)) (s := ⟨s, []⟩)
    rfl rfl
  rw [hbelow] at hpass
  have hmade : laidOut ⟨s.entries ++ [.html (f e')]⟩
      (.node "div" [.node "blockquote" [image 0, image 2, image 1]]) =
        .ok ("<blockquote>\n".toList ++ (slot 0 ++ '\n' :: (slot 2 ++ '\n' :: (slot 1 ++
          "\n</blockquote>".toList)))) := rfl
  have hslots := slotted_markers he hf (p := "<blockquote>\n".toList) (q := "\n</blockquote>".toList)
    (by decide) (by decide)
  have hblank : Text.allBlank (quoted (Marker.start e) Marker.stop) = false := rfl
  obtain ⟨size, htree⟩ := tree_quoted he.isComment_start Marker.isComment_stop
  rw [Marker.start_eq_comment, document_quote_comments hcalm, ← Marker.start_eq_comment] at htree
  rw [conversion_of_block hblank htree hpass hmade hslots, ← quotedPage_eq, strip_quotedPage]

/-- **The page of an equation of a list item.** -/
theorem conversion_listed (hcalm : Undisturbed "equation".toList (Marker.fields e)) :
    conversion f (listed (Marker.start e) Marker.stop) =
      (.ok (listedPage (Marker.start e) (f e') Marker.stop), [e']) := by
  have hslots := slotted_markers he hf (p := "<ul>\n<li>\n<p>item</p>\n".toList)
    (q := "\n</li>\n</ul>".toList) (by decide) (by decide)
  have hblank : Text.allBlank (listed (Marker.start e) Marker.stop) = false := rfl
  have hpass := element_list (f := f) (s := ⟨[.html (Marker.start e), .html Marker.stop]⟩) rfl
    (isBlock_markers he) ha
  obtain ⟨size, htree⟩ := tree_listed he.isComment_start Marker.isComment_stop
  rw [Marker.start_eq_comment, document_list_comments hcalm, ← Marker.start_eq_comment] at htree
  rw [conversion_of_block hblank htree hpass (laidOut_list _) hslots, ← listedPage_eq,
    strip_listedPage]

end

end Nesting

end MathPage.Markdown
