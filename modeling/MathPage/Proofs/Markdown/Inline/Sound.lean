import MathPage.Markdown.Inline.Document
import MathPage.Proofs.Markdown.Inline.Rule

/-!
# Inline markup makes no paragraphs

Every rule of a dialect is sound (`rules_sound`): what it takes out is text or an element without
paragraphs, and to the stash it only adds.
-/

namespace MathPage.Markdown.Inline

/-- An element without children that is no paragraph. -/
theorem Node.noParagraph_element {e : Element} (htag : e.hasTag "p" = false)
    (hchildren : e.children = []) : (Node.element e).NoParagraph :=
  Element.noParagraph_of_tag htag hchildren

/-! ### Spans -/

theorem code_sound : code.Sound := by
  refine Rule.ofMatches_sound fun s m found s' h => ?_
  split at h
  · simp only at h
    split at h
    · cases h
      refine ⟨.refl s, fun n before after hn => ?_⟩
      cases hn
      exact Node.noParagraph_element rfl rfl
    · cases h
  · cases h
    refine ⟨.refl s, fun n before after hn => ?_⟩
    cases hn
    trivial

theorem formulaNode_noParagraph (m : Match) : (formulaNode m).NoParagraph := by
  unfold formulaNode
  split
  · exact Node.noParagraph_element rfl rfl
  · exact Node.noParagraph_element rfl rfl
  · trivial

theorem escape_sound (d : Dialect) : (escape d).Sound := by
  refine Rule.ofMatches_sound fun s m found s' h => ?_
  split at h
  · split at h
    · cases h
      refine ⟨.refl s, fun n before after hn => ?_⟩
      cases hn
      trivial
    · cases h
      exact ⟨.refl s, fun n before after hn => by cases hn⟩
  · cases h

/-- Moving HTML into the stash takes out a text. -/
theorem keepHtml_sound (html : State → Match → Text) :
    Verdict.Sound fun s m => keepHtml s (html s m) m := fun s m found s' h => by
  cases h
  refine ⟨⟨Stash.extends_store _ _, fun hs => hs⟩, fun n before after hn => ?_⟩
  cases hn
  trivial

/-! ### Links -/

theorem element_noParagraph (ns : Nodes) (kind : Kind) (t address : Text) (title : Option Text) :
    (Node.element (element ns kind t address title)).NoParagraph := by
  cases kind <;> exact Node.noParagraph_element rfl rfl

theorem link_sound (kind : Kind) : (link kind).Sound := by
  refine Rule.ofMatches_sound fun s m found s' h => ?_
  split at h
  · cases h
  · split at h
    · cases h
    · cases h
      refine ⟨.refl s, fun n before after hn => ?_⟩
      cases hn
      exact element_noParagraph _ _ _ _ _

theorem refer_sound {defs : Definitions} {kind : Kind} {s s' : State} {m : Match}
    {t name rest : Text} {found : Find} (h : refer defs kind s m t name rest = .accept found s') :
    s.Grows s' ∧ ∀ n before after, found = .node n before after → n.NoParagraph := by
  unfold refer at h
  split at h
  · cases h
    refine ⟨.refl s, fun n before after hn => ?_⟩
    cases hn
    exact element_noParagraph _ _ _ _ _
  · cases h
    exact ⟨.refl s, fun n before after hn => by cases hn⟩

theorem referenced_sound (defs : Definitions) (kind : Kind) : (referenced defs kind).Sound := by
  refine Rule.ofMatches_sound fun s m found s' h => ?_
  split at h
  · cases h
  · simp only at h
    split at h
    · split at h
      · exact refer_sound h
      · cases h
    · cases h

theorem named_sound (defs : Definitions) (kind : Kind) : (named defs kind).Sound := by
  refine Rule.ofMatches_sound fun s m found s' h => ?_
  split at h
  · cases h
  · exact refer_sound h

/-! ### Emphasis -/

/-- The pair has the tag of one of the styles. -/
def Pair.Styled (styles : List Style) (p : Pair) : Prop :=
  ∃ s ∈ styles, p.tag = s.strong ∨ p.tag = s.weak

/-- All pairs found so far have tags of the styles. -/
def Scan.Styled (styles : List Style) (sc : Scan) : Prop := ∀ p ∈ sc.pairs, p.Styled styles

variable {styles : List Style}

theorem layers_styled {s : Style} (hs : s ∈ styles) (sizes : List ℕ) (start stop : ℕ) :
    ∀ p ∈ layers s sizes start stop, p.Styled styles := by
  induction sizes generalizing start stop with
  | nil => exact fun p hp => absurd hp List.not_mem_nil
  | cons n sizes ih =>
    intro p hp
    rcases List.mem_cons.1 hp with rfl | hp
    · refine ⟨s, hs, ?_⟩
      unfold Style.tag
      split
      · exact Or.inl rfl
      · exact Or.inr rfl
    · exact ih _ _ p hp

theorem foldl_join_styled {marks : List Char} {ps : List Pair} (hps : ∀ p ∈ ps, p.Styled styles)
    {sc : Scan} (hsc : sc.Styled styles) :
    (ps.foldl (fun sc p => sc.join marks p) sc).Styled styles := by
  induction ps generalizing sc with
  | nil => exact hsc
  | cons p ps ih =>
    refine ih (fun q hq => hps q (List.mem_cons_of_mem _ hq)) fun q hq => ?_
    rcases List.mem_cons.1 hq with rfl | hq
    · exact hps q List.mem_cons_self
    · exact hsc q (List.mem_of_mem_filter hq)

theorem meet_styled (marks : List Char) {s : Style} (hs : s ∈ styles) {t : Text} {sc : Scan}
    (hsc : sc.Styled styles) (a : Opening) (r : Run) :
    (meet marks s t sc a r).scan.Styled styles := by
  have hjoined : ∀ sizes : List ℕ,
      ((layers s sizes (a.stop - a.used) r.start).foldl (fun sc p => sc.join marks p)
        (sc.drop s.mark)).Styled styles :=
    fun sizes => foldl_join_styled (layers_styled hs sizes _ _) hsc
  unfold meet
  simp only
  split
  · split
    · exact hjoined _
    · split
      · exact hsc
      · exact hsc
  · split
    · split
      · exact hjoined _
      · exact hjoined _
    · split
      · exact hsc
      · split
        · exact hsc
        · split
          · exact hjoined _
          · exact hjoined _
    · split
      · split
        · exact hsc
        · exact hjoined _
      · split
        · exact hjoined _
        · exact hsc

theorem settle_styled {marks : List Char} {s : Style} (hs : s ∈ styles) {t : Text} (fuel : ℕ)
    {sc : Scan} (hsc : sc.Styled styles) (r : Run) :
    (settle marks s t fuel sc r).1.Styled styles := by
  induction fuel generalizing sc r with
  | zero => exact hsc
  | succ fuel ih =>
    unfold settle
    simp only
    split
    · split
      · exact hsc
      · exact hsc
    · rename_i a _
      have hmeet := meet_styled marks hs (t := t) hsc a r
      split
      · split
        · exact hmeet
        · exact hmeet
      · split
        · exact ih hmeet _
        · exact hmeet

theorem scanFrom_styled {t : Text} (fuel : ℕ) {sc : Scan} (hsc : sc.Styled styles) (i : ℕ)
    (before : Option Char) (rest : Text) :
    (scanFrom styles t fuel sc i before rest).Styled styles := by
  induction fuel generalizing sc i before rest with
  | zero => exact hsc
  | succ fuel ih =>
    cases rest with
    | nil => exact hsc
    | cons c rest =>
      unfold scanFrom
      split
      · exact ih hsc _ _ _
      · rename_i s weaker hstyles
        have hs : s ∈ styles :=
          (List.dropWhile_suffix _).subset (hstyles ▸ List.mem_cons_self)
        simp only
        exact ih (settle_styled hs _ hsc _) _ _ _

theorem scan_styled (styles : List Style) (t : Text) : ∀ p ∈ (scan styles t).1, p.Styled styles := by
  intro p hp
  have hnone : Scan.Styled styles {} := fun q hq => nomatch hq
  exact scanFrom_styled (t.length + 1) hnone 0 none t p (List.mem_mergeSort.1 hp)

theorem takeOut_grows {inner : Reader} (hinner : Reader.Sound inner) (fuel : ℕ) {ps : List Pair}
    (hps : ∀ p ∈ ps, p.tag ≠ "p") (pos : ℕ) (s : State) (t : Text) :
    s.Grows (takeOut inner fuel ps pos s t).2 := by
  induction fuel generalizing ps pos s t with
  | zero => exact .refl s
  | succ fuel ih =>
    cases ps with
    | nil => exact .refl s
    | cons p ps =>
      have hwithin : ∀ q ∈ ps.takeWhile (·.opens < p.closes), q.tag ≠ "p" := fun q hq =>
        hps q (List.mem_cons_of_mem _ ((List.takeWhile_prefix _).subset hq))
      have hbehind : ∀ q ∈ ps.dropWhile (·.opens < p.closes), q.tag ≠ "p" := fun q hq =>
        hps q (List.mem_cons_of_mem _ ((List.dropWhile_suffix _).subset hq))
      have hleaf : ∀ content, (Node.element (.leaf p.tag content)).NoParagraph := fun content => by
        refine Node.noParagraph_element ?_ rfl
        exact beq_eq_false_iff_ne.2 fun h => hps p List.mem_cons_self (String.toList_inj.1 h)
      unfold takeOut
      simp only
      exact (ih hwithin _ _ _).trans ((place_grows hinner (hleaf _) _).trans (ih hbehind _ _ _))

/-- Emphasis in styles that are not written as paragraphs. -/
theorem emphasis_sound (h : ∀ s ∈ styles, s.strong ≠ "p" ∧ s.weak ≠ "p") :
    (emphasis styles).Sound := by
  intro inner hinner s t
  unfold emphasis
  simp only
  have hfault : s.Grows { s with fault := s.fault.orElse fun _ => (scan styles t).2 } :=
    ⟨.refl _, fun hs => hs⟩
  refine hfault.trans (takeOut_grows hinner _ (fun p hp => ?_) 0 _ t)
  obtain ⟨st, hst, htag⟩ := scan_styled styles t p hp
  rcases htag with htag | htag
  · exact htag ▸ (h st hst).1
  · exact htag ▸ (h st hst).2

theorem groups_tags (d : Dialect) :
    ∀ styles ∈ Style.groups d, ∀ s ∈ styles, s.strong ≠ "p" ∧ s.weak ≠ "p" := by
  cases d <;> decide

/-- **Every rule of a dialect is sound.** -/
theorem rules_sound (d : Dialect) (defs : Definitions) : ∀ rule ∈ rules d defs, rule.Sound := by
  have hmathematics : mathematics.Sound := Rule.ofPattern_sound fun _ m => formulaNode_noParagraph m
  have hspan : ∀ e : Element, e.hasTag "p" = false → e.children = [] →
      (Node.element e).NoParagraph := fun e => Node.noParagraph_element
  have hlineBreak : lineBreak.Sound := Rule.ofPattern_sound fun _ _ => hspan _ rfl rfl
  have haddress : address.Sound := Rule.ofPattern_sound fun _ _ => hspan _ rfl rfl
  have hmail : mail.Sound := Rule.ofPattern_sound fun _ _ => hspan _ rfl rfl
  have htag : tag.Sound := Rule.ofMatches_sound (keepHtml_sound _)
  have hentity : entity.Sound := Rule.ofMatches_sound (keepHtml_sound _)
  intro rule hrule
  rw [rules, List.mem_append] at hrule
  rcases hrule with hrule | hrule
  · have hfixed : rule ∈ [code, mathematics, escape d, referenced defs .link, link .link,
        link .image, referenced defs .image, named defs .link, named defs .image, address, mail,
        lineBreak, tag, entity] := by
      cases d
      · exact List.mem_cons.2 ((List.mem_cons.1 hrule).imp_right (List.mem_cons_of_mem _))
      · exact hrule
    simp only [List.mem_cons, List.not_mem_nil, or_false] at hfixed
    rcases hfixed with rfl | rfl | rfl | rfl | rfl | rfl | rfl | rfl | rfl | rfl | rfl | rfl |
      rfl | rfl
    · exact code_sound
    · exact hmathematics
    · exact escape_sound d
    · exact referenced_sound defs .link
    · exact link_sound .link
    · exact link_sound .image
    · exact referenced_sound defs .image
    · exact named_sound defs .link
    · exact named_sound defs .image
    · exact haddress
    · exact hmail
    · exact hlineBreak
    · exact htag
    · exact hentity
  · obtain ⟨styles, hstyles, rfl⟩ := List.mem_map.1 hrule
    exact emphasis_sound (groups_tags d styles hstyles)

end MathPage.Markdown.Inline
