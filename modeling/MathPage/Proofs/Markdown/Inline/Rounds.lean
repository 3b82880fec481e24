import MathPage.Proofs.Markdown.Inline.Sound

/-!
# Reading a tree round by round

* `Site.Frame` – a tree with a place for several elements, of which nothing else is due: a round
  changes these elements only;
* `Site.Frame.readRounds` – all rounds over such a tree.

The elements that inline markup gives rise to hold no paragraphs (`expand_noParagraph`), and further
rounds make none (`Site.round_noParagraph`).
-/

namespace MathPage.Markdown.Inline

variable {rules : List Rule}

/-! ### Elements of inline markup -/

theorem noParagraph_children {e : Element} (h : e.NoParagraph) :
    ∀ c ∈ e.children, c.NoParagraph := (Element.noParagraph_iff.1 h).2

/-- Other children without paragraphs. -/
theorem noParagraph_of_tag_eq {e e' : Element} (h : e.NoParagraph) (htag : e'.tag = e.tag)
    (hchildren : ∀ c ∈ e'.children, c.NoParagraph) : e'.NoParagraph :=
  Element.noParagraph_iff.2 ⟨by
    rw [Element.hasTag, htag]
    exact (Element.noParagraph_iff.1 h).1, hchildren⟩

/-- Other texts. -/
theorem noParagraph_congr {e e' : Element} (h : e.NoParagraph) (htag : e'.tag = e.tag)
    (hchildren : e'.children = e.children) : e'.NoParagraph :=
  noParagraph_of_tag_eq h htag (hchildren ▸ noParagraph_children h)

theorem protectEnd_noParagraph {es : List Element} (h : ∀ e ∈ es, e.NoParagraph) :
    ∀ e ∈ Nodes.protectEnd es, e.NoParagraph := by
  fun_induction Nodes.protectEnd es with
  | case1 => exact h
  | case2 e =>
    intro e' he'
    obtain rfl := List.mem_singleton.1 he'
    exact noParagraph_congr (h e List.mem_cons_self) rfl rfl
  | case3 e es _ ih =>
    intro e' he'
    rcases List.mem_cons.1 he' with rfl | he'
    · exact h _ List.mem_cons_self
    · exact ih (fun x hx => h x (List.mem_cons_of_mem _ hx)) e' he'

theorem appendText_noParagraph {t : Text} {acc : Text × List Element}
    (h : ∀ e ∈ acc.2, e.NoParagraph) : ∀ e ∈ (Nodes.appendText t acc).2, e.NoParagraph := by
  obtain ⟨lead, _ | ⟨e, es⟩⟩ := acc
  · exact h
  · unfold Nodes.appendText
    simp only
    split
    · exact h
    · intro e' he'
      rcases List.mem_cons.1 he' with rfl | he'
      · exact noParagraph_congr (h e List.mem_cons_self) rfl rfl
      · exact h e' (List.mem_cons_of_mem _ he')

/-- Nodes without paragraphs resolve to elements without paragraphs. -/
theorem resolveLevels_noParagraph {ns : Nodes} (h : ∀ n ∈ ns, n.NoParagraph) (depth : ℕ) (t : Text) :
    ∀ e ∈ (ns.resolveLevels depth t).2, e.NoParagraph := by
  induction depth generalizing t with
  | zero => exact fun e he => absurd he List.not_mem_nil
  | succ depth ih =>
    unfold Nodes.resolveLevels
    simp only
    intro e he
    rw [List.mem_reverse] at he
    revert e he
    refine List.foldlRecOn (Nodes.pieces t) _
      (motive := fun acc : Text × List Element => ∀ e ∈ acc.2, e.NoParagraph)
      (fun e he => absurd he List.not_mem_nil) fun acc hacc p _ => ?_
    rcases p with t | n
    · exact appendText_noParagraph hacc
    · simp only
      split
      · exact appendText_noParagraph hacc
      · rename_i e he
        intro e' he'
        rcases List.mem_cons.1 he' with rfl | he'
        · have hnode : e.NoParagraph := h _ (List.mem_of_getElem? he)
          refine noParagraph_of_tag_eq hnode rfl fun c hc => ?_
          rcases List.mem_append.1 hc with hc | hc
          · split at hc
            · exact protectEnd_noParagraph (ih _) c hc
            · exact ih _ c hc
          · exact noParagraph_children hnode c hc
        · exact hacc e' he'
      · exact hacc

/-- A reader of which the elements that it finds hold no paragraphs. -/
theorem expand_noParagraph (hrules : ∀ rule ∈ rules, rule.Sound) (t : Text) {s : State}
    (hs : ∀ n ∈ s.nodes, n.NoParagraph) :
    s.Grows (expand rules t s).2 ∧ ∀ e ∈ (expand rules t s).1.2, e.NoParagraph := by
  have hgrows := read_sound hrules s t
  exact ⟨hgrows, resolveLevels_noParagraph (hgrows.nodes hs) _ _⟩

/-- What reading the text of an element does: the element keeps its tag and its children. -/
theorem openText_noParagraph (hrules : ∀ rule ∈ rules, rule.Sound) (e : Element) {s : State}
    (hs : ∀ n ∈ s.nodes, n.NoParagraph) :
    s.Grows (openText rules e s).2.2 ∧ (∀ c ∈ (openText rules e s).2.1, c.NoParagraph) ∧
      (openText rules e s).1.tag = e.tag ∧ (openText rules e s).1.children = e.children := by
  unfold openText
  split
  · exact ⟨.refl s, fun c hc => absurd hc List.not_mem_nil, rfl, rfl⟩
  · obtain ⟨hgrows, hes⟩ := expand_noParagraph hrules e.textD hs
    exact ⟨hgrows, hes, rfl, rfl⟩

theorem openTail_noParagraph (hrules : ∀ rule ∈ rules, rule.Sound) (e : Element) {s : State}
    (hs : ∀ n ∈ s.nodes, n.NoParagraph) :
    s.Grows (openTail rules e s).2.2 ∧ (∀ c ∈ (openTail rules e s).2.1, c.NoParagraph) ∧
      (openTail rules e s).1.tag = e.tag ∧ (openTail rules e s).1.children = e.children := by
  unfold openTail
  split
  · exact ⟨.refl s, fun c hc => absurd hc List.not_mem_nil, rfl, rfl⟩
  · obtain ⟨hgrows, hes⟩ := expand_noParagraph hrules e.tailD hs
    exact ⟨hgrows, hes, rfl, rfl⟩

theorem openTail_of_none (rules : List Rule) {e : Element} (he : e.tail = none) (s : State) :
    openTail rules e s = (e, [], s) := by
  unfold openTail Element.tailD
  rw [he]
  rfl

namespace Site

/-! ### Rounds over elements without paragraphs -/

mutual

theorem toElement_ofElement : ∀ e : Element, (ofElement e).toElement = e
  | ⟨tag, attributes, text, literal, children, tail⟩ => by
    rw [ofElement, toElement, toElements_ofElements]

theorem toElements_ofElements : ∀ es : List Element, toElements (ofElements es) = es
  | [] => rfl
  | e :: es => by rw [ofElements, toElements, toElement_ofElement, toElements_ofElements]

end

theorem toElement_mark (e : Site) : e.mark.toElement = e.toElement := by
  cases e
  rfl

theorem toElements_eq_map (es : List Site) : toElements es = es.map toElement := by
  induction es with
  | nil => rfl
  | cons e es ih => rw [toElements, ih, List.map_cons]

/-- No paragraph in the tree that is being read. -/
def NoParagraph (e : Site) : Prop := e.toElement.NoParagraph

theorem noParagraph_mk {e : Element} {due : Bool} {below : List Site} :
    (mk e due below).NoParagraph ↔ e.hasTag "p" = false ∧ ∀ c ∈ below, c.NoParagraph := by
  rw [NoParagraph, Element.noParagraph_iff]
  show _ ∧ (∀ c ∈ toElements below, c.NoParagraph) ↔ _
  rw [toElements_eq_map, List.forall_mem_map]
  rfl

theorem readSiblings_noParagraph (hrules : ∀ rule ∈ rules, rule.Sound) (fuel : ℕ)
    {es : List Site} {s : State} (hes : ∀ e ∈ es, e.NoParagraph)
    (hs : ∀ n ∈ s.nodes, n.NoParagraph) :
    s.Grows (readSiblings rules fuel es s).2 ∧
      ∀ e ∈ (readSiblings rules fuel es s).1, e.NoParagraph := by
  induction fuel generalizing es s with
  | zero => exact ⟨.refl s, hes⟩
  | succ fuel ih =>
    rcases es with _ | ⟨⟨e, due, below⟩, rest⟩
    · exact ⟨.refl s, hes⟩
    · obtain ⟨htag, hbelow⟩ := noParagraph_mk.1 (hes _ List.mem_cons_self)
      obtain ⟨hopen, hinner, htag₁, -⟩ := openText_noParagraph hrules e hs
      obtain ⟨htail, hnext, htag₂, -⟩ := openTail_noParagraph hrules (openText rules e s).1
        (hopen.nodes hs)
      have hrest : ∀ x ∈ (openTail rules (openText rules e s).1
          (openText rules e s).2.2).2.1.map ofElement ++ rest, x.NoParagraph := fun x hx => by
        rcases List.mem_append.1 hx with hx | hx
        · obtain ⟨c, hc, rfl⟩ := List.mem_map.1 hx
          rw [NoParagraph, toElement_ofElement]
          exact hnext c hc
        · exact hes x (List.mem_cons_of_mem _ hx)
      obtain ⟨hgrows, hrest'⟩ := ih hrest (htail.nodes (hopen.nodes hs))
      simp only [readSiblings]
      refine ⟨hopen.trans (htail.trans hgrows), fun x hx => ?_⟩
      rcases List.mem_cons.1 hx with rfl | hx
      · refine noParagraph_mk.2 ⟨?_, fun c hc => ?_⟩
        · rw [Element.hasTag, htag₂, htag₁]
          exact htag
        · rcases List.mem_append.1 hc with hc | hc
          · obtain ⟨n, hn, rfl⟩ := List.mem_map.1 hc
            rw [NoParagraph, toElement_mark, toElement_ofElement]
            exact hinner n hn
          · exact hbelow c hc
      · exact hrest' x hx

mutual

/-- A round over an element without paragraphs makes none. -/
theorem round_noParagraph (hrules : ∀ rule ∈ rules, rule.Sound) (fuel : ℕ) :
    ∀ (e : Site) (s : State), e.NoParagraph → (∀ n ∈ s.nodes, n.NoParagraph) →
      s.Grows (round rules fuel e s).2 ∧ (round rules fuel e s).1.NoParagraph
  | .mk e due below, s, he, hs => by
    obtain ⟨htag, hbelow⟩ := noParagraph_mk.1 he
    obtain ⟨hgrows, hbelow'⟩ := roundAll_noParagraph hrules fuel below s hbelow hs
    simp only [round]
    cases due with
    | false => exact ⟨hgrows, noParagraph_mk.2 ⟨htag, hbelow'⟩⟩
    | true =>
      obtain ⟨hgrows', hbelow''⟩ :=
        readSiblings_noParagraph hrules fuel hbelow' (hgrows.nodes hs)
      exact ⟨hgrows.trans hgrows', noParagraph_mk.2 ⟨htag, hbelow''⟩⟩

theorem roundAll_noParagraph (hrules : ∀ rule ∈ rules, rule.Sound) (fuel : ℕ) :
    ∀ (es : List Site) (s : State), (∀ e ∈ es, e.NoParagraph) →
      (∀ n ∈ s.nodes, n.NoParagraph) →
        s.Grows (roundAll rules fuel es s).2 ∧ ∀ e ∈ (roundAll rules fuel es s).1, e.NoParagraph
  | [], s, hes, _ => ⟨.refl s, hes⟩
  | e :: es, s, hes, hs => by
    obtain ⟨hgrows, he⟩ := round_noParagraph hrules fuel e s (hes e List.mem_cons_self) hs
    obtain ⟨hgrows', hes'⟩ := roundAll_noParagraph hrules fuel es _
      (fun x hx => hes x (List.mem_cons_of_mem _ hx)) (hgrows.nodes hs)
    simp only [roundAll]
    refine ⟨hgrows.trans hgrows', fun x hx => ?_⟩
    rcases List.mem_cons.1 hx with rfl | hx
    · exact he
    · exact hes' x hx

end

/-! ### Rounds over a part of a tree -/

mutual

/-- A round over what is not due changes nothing. -/
theorem round_eq_self (rules : List Rule) (fuel : ℕ) :
    ∀ (e : Site) (s : State), e.isDue = false → round rules fuel e s = (e, s)
  | .mk e due below, s, h => by
    obtain ⟨rfl, hbelow⟩ := Bool.or_eq_false_iff.1 h
    simp only [round, roundAll_eq_self rules fuel below s hbelow, Bool.false_eq_true, if_false]

theorem roundAll_eq_self (rules : List Rule) (fuel : ℕ) :
    ∀ (es : List Site) (s : State), anyDue es = false → roundAll rules fuel es s = (es, s)
  | [], _, _ => rfl
  | e :: es, s, h => by
    obtain ⟨he, hes⟩ := Bool.or_eq_false_iff.1 h
    simp only [roundAll, round_eq_self rules fuel e s he, roundAll_eq_self rules fuel es s hes]

end

theorem roundAll_append (rules : List Rule) (fuel : ℕ) (es es' : List Site) (s : State) :
    roundAll rules fuel (es ++ es') s =
      let (es, s) := roundAll rules fuel es s
      let (es', s) := roundAll rules fuel es' s
      (es ++ es', s) := by
  induction es generalizing s with
  | nil => rfl
  | cons e es ih => simp only [List.cons_append, roundAll, ih]

theorem roundAll_length (rules : List Rule) (fuel : ℕ) (es : List Site) (s : State) :
    (roundAll rules fuel es s).1.length = es.length := by
  induction es generalizing s with
  | nil => rfl
  | cons e es ih => simp only [roundAll, List.length_cons, ih]

theorem anyDue_append (es es' : List Site) : anyDue (es ++ es') = (anyDue es || anyDue es') := by
  induction es with
  | nil => rfl
  | cons e es ih => rw [List.cons_append, anyDue, anyDue, ih, Bool.or_assoc]

/-! ### Single steps -/

theorem readSiblings_cons {rules : List Rule} {e e' : Element} {inner : List Element} {s s' : State}
    (hopen : openText rules e s = (e', inner, s')) (htail : e'.tail = none) (fuel : ℕ) (due : Bool)
    (below rest : List Site) :
    readSiblings rules (fuel + 1) (.mk e due below :: rest) s =
      (.mk e' (!below.isEmpty) (inner.map (fun n => (ofElement n).mark) ++ below) ::
          (readSiblings rules fuel rest s').1,
        (readSiblings rules fuel rest s').2) := by
  simp only [readSiblings, hopen, openTail_of_none rules htail, List.map_nil, List.nil_append]

/-- An element without a text gives its turn to its children. -/
theorem round_empty {rules : List Rule} {d e : Element} (htext : e.textD = []) (htail : e.tail = none)
    {below : List Site} (hne : below.isEmpty = false) (hdue : anyDue below = false) (fuel : ℕ) (s : State) :
    round rules (fuel + 1) (.mk d true [.mk e false below]) s =
      (.mk d false [.mk e true below], s) := by
  have hopen : openText rules e s = (e, [], s) := by
    rw [openText, htext]
    simp
  have hsite : isDue (.mk e false below) = false := hdue
  have hbelow : (!below.isEmpty) = true := by rw [hne, Bool.not_false]
  have hall : anyDue [.mk e false below] = false := by
    rw [anyDue, hsite]
    rfl
  have hnil : readSiblings rules fuel [] s = ([], s) := by cases fuel <;> rfl
  simp only [round, roundAll_eq_self rules (fuel + 1) _ s hall, if_true,
    readSiblings_cons hopen htail, hnil, hbelow, List.map_nil, List.nil_append]

theorem readRounds_succ {rules : List Rule} {e : Site} (h : e.isDue = true) (fuel n : ℕ)
    (s : State) : readRounds rules fuel (n + 1) e s =
      readRounds rules fuel n (e.round rules fuel s).1 (e.round rules fuel s).2 := by
  rw [readRounds, if_pos h]

theorem roundAll_due {rules : List Rule} {e : Element} {below : List Site}
    (hbelow : anyDue below = false) (fuel : ℕ) (s : State) :
    roundAll rules fuel [.mk e true below] s =
      ([.mk e false (readSiblings rules fuel below s).1], (readSiblings rules fuel below s).2) := by
  simp only [roundAll, round, roundAll_eq_self rules fuel below s hbelow, if_true]

theorem readRounds_of_not_due {rules : List Rule} {e : Site} (h : e.isDue = false) (fuel n : ℕ)
    (s : State) : readRounds rules fuel n e s = (e, s) := by
  cases n with
  | zero => rfl
  | succ n => rw [readRounds, if_neg (by rw [h]; decide)]

/-! ### Frames -/

/-- A tree with a place for several elements, of which nothing else is due. -/
inductive Frame : (List Site → Site) → Prop where
  | here (e : Element) : Frame fun below => .mk e false below
  | inside {C : List Site → Site} (e : Element) (before after : List Site) (hC : Frame C)
      (hbefore : anyDue before = false) (hafter : anyDue after = false) :
      Frame fun below => .mk e false (before ++ C below :: after)

theorem Frame.isDue {C : List Site → Site} (hC : Frame C) (below : List Site) :
    (C below).isDue = anyDue below := by
  induction hC with
  | here e => exact Bool.false_or _
  | inside e _ _ _ hbefore hafter ih =>
    show (false || anyDue _) = _
    rw [anyDue_append, hbefore, anyDue, ih, hafter, Bool.or_false, Bool.false_or, Bool.false_or]

/-- A round changes the elements in the place only. -/
theorem Frame.round {C : List Site → Site} (hC : Frame C) (rules : List Rule) (fuel : ℕ)
    (below : List Site) (s : State) :
    (C below).round rules fuel s =
      (C (roundAll rules fuel below s).1, (roundAll rules fuel below s).2) := by
  induction hC with
  | here e => rfl
  | inside e before after _ hbefore hafter ih =>
    simp only [Site.round, roundAll_append, roundAll_eq_self rules fuel before s hbefore, roundAll,
      ih, roundAll_eq_self rules fuel after _ hafter, Bool.false_eq_true, if_false]

/-- A frame inside another one. -/
theorem Frame.comp {C D : List Site → Site} (hC : Frame C) (hD : Frame D) :
    Frame fun below => C [D below] := by
  induction hC with
  | here e => exact .inside e [] [] hD rfl rfl
  | inside e before after _ hbefore hafter ih => exact .inside e before after ih hbefore hafter

/-- All further rounds over elements without paragraphs: these elements stay without paragraphs, and
there are none of them if there were none. -/
theorem Frame.readRounds {C : List Site → Site} (hC : Frame C)
    (hrules : ∀ rule ∈ rules, rule.Sound) (fuel n : ℕ) {es : List Site} {s : State}
    (hes : ∀ e ∈ es, e.NoParagraph) (hs : ∀ n ∈ s.nodes, n.NoParagraph) :
    ∃ es' s', (C es).readRounds rules fuel n s = (C es', s') ∧ s.Grows s' ∧
      (∀ e ∈ es', e.NoParagraph) ∧ es'.length = es.length ∧ (es = [] → s' = s) := by
  induction n generalizing es s with
  | zero => exact ⟨es, s, rfl, .refl s, hes, rfl, fun _ => rfl⟩
  | succ n ih =>
    unfold Site.readRounds
    rw [hC.isDue]
    split
    · obtain ⟨hgrows, hes'⟩ := roundAll_noParagraph hrules fuel es s hes hs
      obtain ⟨es'', s'', hread, hgrows', hes'', hlength, hnil⟩ := ih hes' (hgrows.nodes hs)
      rw [hC.round]
      refine ⟨es'', s'', hread, hgrows.trans hgrows', hes'', ?_, ?_⟩
      · rw [hlength, roundAll_length]
      · rintro rfl
        exact hnil rfl
    · exact ⟨es, s, rfl, .refl s, hes, rfl, fun _ => rfl⟩

end Site

end MathPage.Markdown.Inline
