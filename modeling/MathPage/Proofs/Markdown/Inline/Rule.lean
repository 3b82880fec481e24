import MathPage.Markdown.Inline.Rule
import MathPage.Proofs.Document.Stash
import MathPage.Proofs.Document.Tree
import MathPage.Proofs.Text.Pattern

/-!
# Inline rules, whatever they look for

* `Element.NoParagraph`, `Node.NoParagraph` – no paragraph at or below an element, or in a node;
* `State.Grows` – reading adds pieces to the stash at its end, and nodes without paragraphs;
* `Reader.Sound`, `Rule.Sound` – readers and rules that do no more than this.

A rule that looks at matches is sound if what it takes matches for is (`Rule.ofMatches_sound`), and
a rule that takes no match for anything leaves the text as it is (`Rule.ofMatches_eq_self`).
-/

namespace MathPage

/-- No paragraph at or below an element. -/
def Element.NoParagraph (e : Element) : Prop := ∀ x ∈ e.within, x.hasTag "p" = false

theorem Element.noParagraph_iff {e : Element} :
    e.NoParagraph ↔ e.hasTag "p" = false ∧ ∀ c ∈ e.children, c.NoParagraph := by
  unfold NoParagraph
  rw [within_eq]
  constructor
  · intro h
    exact ⟨h e List.mem_cons_self, fun c hc x hx =>
      h x (List.mem_cons_of_mem _ (mem_withinAll.2 ⟨c, hc, hx⟩))⟩
  · rintro ⟨he, hc⟩ x hx
    rcases List.mem_cons.1 hx with rfl | hx
    · exact he
    · obtain ⟨c, hmem, hx⟩ := mem_withinAll.1 hx
      exact hc c hmem x hx

/-- An element without children is no paragraph by its tag. -/
theorem Element.noParagraph_of_tag {e : Element} (htag : e.hasTag "p" = false)
    (hchildren : e.children = []) : e.NoParagraph :=
  noParagraph_iff.2 ⟨htag, by rw [hchildren]; exact fun _ hc => absurd hc List.not_mem_nil⟩

namespace Markdown.Inline

/-- No paragraph in a node. -/
def Node.NoParagraph : Node → Prop
  | .text _ => True
  | .element e => e.NoParagraph

/-- What reading does to a state: it adds pieces to the stash, and nodes without paragraphs. -/
structure State.Grows (s s' : State) : Prop where
  stash : s.stash.Extends s'.stash
  nodes : (∀ n ∈ s.nodes, n.NoParagraph) → ∀ n ∈ s'.nodes, n.NoParagraph

theorem State.Grows.refl (s : State) : s.Grows s := ⟨.refl _, fun h => h⟩

theorem State.Grows.trans {s s' s'' : State} (h : s.Grows s') (h' : s'.Grows s'') : s.Grows s'' :=
  ⟨h.stash.trans h'.stash, fun hs => h'.nodes (h.nodes hs)⟩

/-- A reader that only makes the state grow. -/
def Reader.Sound (r : Reader) : Prop := ∀ (s : State) (t : Text), s.Grows (r s t).2

/-- A rule that only makes the state grow if the rules behind it do. -/
def Rule.Sound (rule : Rule) : Prop := ∀ inner : Reader, Reader.Sound inner → Reader.Sound (rule inner)

theorem read_sound {rules : List Rule} (h : ∀ rule ∈ rules, Rule.Sound rule) :
    Reader.Sound (read rules) := by
  induction rules with
  | nil => exact fun s _ => .refl s
  | cons rule rules ih =>
    have hrest := ih fun r hr => h r (List.mem_cons_of_mem _ hr)
    intro s t
    exact (h rule List.mem_cons_self _ hrest s t).trans (hrest _ _)

/-! ### Taking nodes out -/

theorem place_grows {inner : Reader} (hinner : Reader.Sound inner) {n : Node} (hn : n.NoParagraph)
    (s : State) : s.Grows (place inner n s).2 := by
  have hstore : ∀ (s : State) (n : Node), n.NoParagraph →
      s.Grows { s with nodes := (s.nodes.store n).2 } := fun s n hn =>
    ⟨.refl _, fun hs m hm => (List.mem_append.1 hm).elim (hs m) fun hm =>
      List.mem_singleton.1 hm ▸ hn⟩
  cases n with
  | text t => exact hstore s _ hn
  | element e =>
    unfold place
    simp only
    split
    · exact hstore s _ hn
    · have he := Element.noParagraph_iff.1 hn
      exact (hinner s e.textD).trans (hstore _ _ (Element.noParagraph_iff.2 he))

/-- What a rule makes of a match is sound: it only makes the state grow, and it takes out no
paragraph. -/
def Verdict.Sound (f : State → Match → Verdict) : Prop :=
  ∀ s m found s', f s m = .accept found s' →
    s.Grows s' ∧ ∀ n before after, found = .node n before after → n.NoParagraph

theorem search_grows {p : Pattern} {f : State → Match → Verdict} (hf : Verdict.Sound f) {s s' : State}
    {t : Text} {fuel pos : ℕ} {found : Find} (h : search p f s t fuel pos = some (found, s')) :
    s.Grows s' ∧ ∀ n before after, found = .node n before after → n.NoParagraph := by
  induction fuel generalizing pos with
  | zero => cases h
  | succ fuel ih =>
    simp only [search] at h
    split at h
    · cases h
    · split at h
      · rename_i m _ found' s'' hm
        obtain ⟨rfl, rfl⟩ := Prod.mk.inj (Option.some.inj h)
        exact hf _ _ _ _ hm
      · exact ih h

theorem exhaust_grows {p : Pattern} {f : State → Match → Verdict} (hf : Verdict.Sound f) {inner : Reader}
    (hinner : Reader.Sound inner) (fuel pos : ℕ) (s : State) (t : Text) :
    s.Grows (exhaust p f inner fuel pos s t).2 := by
  induction fuel generalizing pos s t with
  | zero => exact .refl s
  | succ fuel ih =>
    simp only [exhaust]
    split
    · exact .refl s
    · rename_i stop s' hsearch
      exact (search_grows hf hsearch).1.trans (ih _ _ _)
    · rename_i n before after s' hsearch
      obtain ⟨hgrows, hn⟩ := search_grows hf hsearch
      exact hgrows.trans ((place_grows hinner (hn n before after rfl) s').trans (ih _ _ _))

/-- A rule that looks at matches is sound if what it makes of a match is. -/
theorem Rule.ofMatches_sound {p : Pattern} {f : State → Match → Verdict} (hf : Verdict.Sound f) :
    (Rule.ofMatches p f).Sound := fun _ hinner s t => exhaust_grows hf hinner _ _ s t

theorem Rule.ofPattern_sound {p : Pattern} {f : State → Match → Node}
    (hf : ∀ s m, (f s m).NoParagraph) : (Rule.ofPattern p f).Sound :=
  Rule.ofMatches_sound fun s m found s' h => by
    cases h
    refine ⟨.refl s, fun n before after h => ?_⟩
    cases h
    exact hf s m

/-- Where nothing is found, the text stays as it is. -/
theorem exhaust_of_findFrom?_eq_none {p : Pattern} {pos : ℕ} {t : Text}
    (h : p.findFrom? pos t = none) (f : State → Match → Verdict) (inner : Reader) (fuel : ℕ)
    (s : State) : exhaust p f inner fuel pos s t = (t, s) := by
  cases fuel with
  | zero => rfl
  | succ fuel => simp only [exhaust, search, h]

/-- A rule that takes the whole text for a text node, and finds nothing in placeholders. -/
theorem Rule.ofMatches_of_whole {p : Pattern} {f : State → Match → Verdict} {s s' : State}
    {t u : Text} {m : Match} (hm : p.findFrom? 0 t = some m)
    (hf : f s m = .accept (.node (.text u) [] []) s')
    (hnone : ∀ pos, p.findFrom? pos (Nodes.placeholder s'.nodes.length) = none) (inner : Reader) :
    Rule.ofMatches p f inner s t =
      (Nodes.placeholder s'.nodes.length, { s' with nodes := s'.nodes ++ [.text u] }) := by
  unfold Rule.ofMatches
  simp only [exhaust, search, hm, hf, place, Nodes.store, List.nil_append, List.append_nil]
  exact exhaust_of_findFrom?_eq_none (hnone _) f inner _ _

/-! ### Texts without anything to take out -/

theorem search_eq_none_or_skip {p : Pattern} {f : State → Match → Verdict} {s : State} {t : Text}
    (h : ∀ pos m, p.findFrom? pos t = some m →
      f s m = .reject ∨ ∃ stop, f s m = .accept (.skip stop) s) (fuel pos : ℕ) :
    search p f s t fuel pos = none ∨ ∃ stop, search p f s t fuel pos = some (.skip stop, s) := by
  induction fuel generalizing pos with
  | zero => exact Or.inl rfl
  | succ fuel ih =>
    cases hm : p.findFrom? pos t with
    | none => exact Or.inl (by simp only [search, hm])
    | some m =>
      rcases h pos m hm with hf | ⟨stop, hf⟩
      · simpa only [search, hm, hf] using ih _
      · exact Or.inr ⟨stop, by simp only [search, hm, hf]⟩

/-- A rule that takes no match for anything leaves the text as it is. -/
theorem Rule.ofMatches_eq_self {p : Pattern} {f : State → Match → Verdict} {s : State} {t : Text}
    (h : ∀ pos m, p.findFrom? pos t = some m →
      f s m = .reject ∨ ∃ stop, f s m = .accept (.skip stop) s) (inner : Reader) :
    Rule.ofMatches p f inner s t = (t, s) := by
  have hexhaust : ∀ fuel pos, exhaust p f inner fuel pos s t = (t, s) := fun fuel => by
    induction fuel with
    | zero => exact fun _ => rfl
    | succ fuel ih =>
      intro pos
      rcases search_eq_none_or_skip h (t.length + 1) pos with hs | ⟨stop, hs⟩
      · simp only [exhaust, hs]
      · simp only [exhaust, hs]
        exact ih _
  exact hexhaust _ 0

/-- A rule whose pattern matches nowhere leaves the text as it is. -/
theorem Rule.ofMatches_of_noMatch {p : Pattern} {t : Text}
    (h : ∀ u v, t = u ++ v → p.run (.between u v) some = none)
    (f : State → Match → Verdict) (inner : Reader) (s : State) :
    Rule.ofMatches p f inner s t = (t, s) :=
  Rule.ofMatches_eq_self (fun pos m hm => by
    rw [Pattern.findFrom?_eq_none_of_forall h] at hm
    cases hm) inner

end Markdown.Inline

end MathPage
