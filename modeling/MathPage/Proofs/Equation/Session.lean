import MathPage.Proofs.Document.Placeholder
import MathPage.Proofs.Equation.Messages
import MathPage.Proofs.Equation.Repeat
import MathPage.Proofs.Equation.Visits

/-!
# Sessions

A session begins with an empty stash. Pieces are stored, images are rendered, passes run over the
tree or over the children of single elements, whether they fail or not, and the tree is edited, in
any order.

* `Session`, `Session.Act` – a tree with its stash and the outside, and what is done to it at one go;
  `Act.perform` gives the placeholders that are handed out;
* `Session.Step` – an act, or a pass over a part of the tree;
* `Session.Numbered` – a stash that grows at its end, and the placeholders that are handed out
  meanwhile;
* `Stash.Counted` – a stash that numbers its pieces by a counter.

Every step comes to some acts (`exists_acts_of_step`), and every act hands out one placeholder for
each piece that it stores (`Act.perform_numbered`). So pieces are numbered in their order, and an
element stands at every later moment for the piece that it names (`placeholders_resolve`).
-/

namespace MathPage

variable {ω : Type}

/-- A tree that is worked on, with the stash and the outside. -/
structure Session (ω : Type) where
  tree : Element
  state : Pass.State ω

namespace Session

/-- A session that begins. -/
def start (tree : Element) (w : ω) : Session ω := ⟨tree, {}, w⟩

/-- What is done to a session at one go. -/
inductive Act (ω : Type) where
  | store (e : Stash.Entry)
  | note (h : Host ω) (t : Text)
  | image (h : Host ω) (marker : Text)
  | edit (f : Element → Element)

/-- The placeholders that an act hands out, and the session that it leaves. -/
def Act.perform : Act ω → Session ω → List Text × Session ω
  | .store e, c =>
    let (placeholder, stash) := c.state.stash.store e
    ([placeholder], { c with state := { c.state with stash := stash } })
  | .note h t, c => ([], { c with state := (Pass.note h t c.state).2 })
  | .image h marker, c =>
    match Pass.image h marker c.state with
    | (.ok new, s) => ([new.textD], { c with state := s })
    | (.error _, s) => ([], { c with state := s })
  | .edit f, c => ([], { c with tree := f c.tree })

/-- Several acts, with all placeholders in the order in which they are handed out. -/
def Act.performAll : List (Act ω) → Session ω → List Text × Session ω
  | [], c => ([], c)
  | a :: acts, c =>
    let first := a.perform c
    let rest := performAll acts first.2
    (first.1 ++ rest.1, rest.2)

/-- A step: an act, or a pass over the children of the element at a path or over that whole
element. -/
inductive Step (ω : Type) where
  | act (a : Act ω)
  | children (h : Host ω) (path : List ℕ)
  | run (h : Host ω) (path : List ℕ)

/-- The session that a step leaves. -/
def Step.perform : Step ω → Session ω → Session ω
  | .act a, c => (a.perform c).2
  | .children h path, c =>
    let p := Pass.childrenAt h path c.tree c.state
    ⟨p.made, p.state⟩
  | .run h path, c =>
    match c.tree.atPath? path with
    | some e =>
      let p := Pass.run h e c.state
      ⟨c.tree.updateAt (fun _ => p.made) path, p.state⟩
    | none => c

/-- Several steps, each on what the ones before it left. -/
def Step.performAll (steps : List (Step ω)) (c : Session ω) : Session ω :=
  steps.foldl (fun c step => step.perform c) c

/-! ### Steps as acts -/

theorem Act.performAll_append (acts more : List (Act ω)) (c : Session ω) :
    performAll (acts ++ more) c =
      ((performAll acts c).1 ++ (performAll more (performAll acts c).2).1,
        (performAll more (performAll acts c).2).2) := by
  induction acts generalizing c with
  | nil => rfl
  | cons a acts ih => simp only [List.cons_append, performAll, ih, List.append_assoc]

/-- The acts of a pass: its messages, its images and its edits. -/
def Act.OfPass (h : Host ω) : Act ω → Prop
  | .store _ => False
  | .note h' t => h' = h ∧ Pass.Message t
  | .image h' _ => h' = h
  | .edit _ => True

/-- The acts that a step may come to: itself, or what a pass does. -/
def Step.Comprises : Step ω → List (Act ω) → Prop
  | .act a, acts => acts = [a]
  | .children h _, acts | .run h _, acts => ∀ a ∈ acts, a.OfPass h

/-- Acts that several steps may come to, one after the other. -/
def Step.Comprise (steps : List (Step ω)) (acts : List (Act ω)) : Prop :=
  ∃ parts, List.Forall₂ Step.Comprises steps parts ∧ parts.flatten = acts

/-- Messages and images of a pass lead from the first state to the second. -/
def Leads (h : Host ω) (s t : Pass.State ω) : Prop :=
  ∃ acts : List (Act ω), (∀ a ∈ acts, a.OfPass h) ∧
    ∀ tree, (Act.performAll acts ⟨tree, s⟩).2 = ⟨tree, t⟩

theorem leads_respects (h : Host ω) : Pass.Respects h (Leads h) where
  refl s := ⟨[], by simp, fun _ => rfl⟩
  trans := by
    rintro s t u ⟨acts, hacts, ht⟩ ⟨more, hmore, hu⟩
    refine ⟨acts ++ more, fun a ha => (List.mem_append.1 ha).elim (hacts a) (hmore a), fun tree => ?_⟩
    rw [Act.performAll_append]
    simp only [ht, hu]
  note {t} ht s := ⟨[.note h t], by simpa [Act.OfPass] using ht, fun _ => rfl⟩
  image marker s := by
    refine ⟨[.image h marker], by simp [Act.OfPass], fun tree => ?_⟩
    simp only [Act.performAll, Act.perform]
    rcases Pass.image h marker s with ⟨_ | new, t⟩ <;> rfl

/-- The tree that a pass makes comes in with a last act. -/
theorem exists_acts_of_leads {h : Host ω} {s t : Pass.State ω} (hst : Leads h s t)
    (tree made : Element) :
    ∃ acts : List (Act ω), (∀ a ∈ acts, a.OfPass h) ∧
      (Act.performAll acts ⟨tree, s⟩).2 = ⟨made, t⟩ := by
  obtain ⟨acts, hacts, ht⟩ := hst
  refine ⟨acts ++ [.edit fun _ => made], fun a ha => ?_, ?_⟩
  · rcases List.mem_append.1 ha with ha | ha
    · exact hacts a ha
    · exact List.mem_singleton.1 ha ▸ trivial
  · rw [Act.performAll_append]
    simp only [ht, Act.performAll, Act.perform]

/-- **Every step comes to some acts,** a pass that fails as one that does not. -/
theorem exists_acts_of_step (step : Step ω) (c : Session ω) :
    ∃ acts, step.Comprises acts ∧ (Act.performAll acts c).2 = step.perform c := by
  cases step with
  | act a => exact ⟨[a], rfl, rfl⟩
  | children h path =>
    simp only [Step.perform, Pass.childrenAt]
    cases c.tree.atPath? path with
    | none => exact ⟨[], by simp [Step.Comprises], rfl⟩
    | some e => exact exists_acts_of_leads ((leads_respects h).scan e.children c.state) c.tree _
  | run h path =>
    simp only [Step.perform]
    cases c.tree.atPath? path with
    | none => exact ⟨[], by simp [Step.Comprises], rfl⟩
    | some e => exact exists_acts_of_leads ((leads_respects h).run e c.state) c.tree _

theorem exists_acts_of_steps (steps : List (Step ω)) (c : Session ω) :
    ∃ acts, Step.Comprise steps acts ∧ (Act.performAll acts c).2 = Step.performAll steps c := by
  induction steps generalizing c with
  | nil => exact ⟨[], ⟨[], .nil, rfl⟩, rfl⟩
  | cons step steps ih =>
    obtain ⟨first, hfirst, hc⟩ := exists_acts_of_step step c
    obtain ⟨_, ⟨parts, hparts, rfl⟩, hrest⟩ := ih (step.perform c)
    refine ⟨first ++ parts.flatten, ⟨first :: parts, .cons hfirst hparts, rfl⟩, ?_⟩
    -- the rest of the acts goes on where the step ended
    rw [Act.performAll_append, hc]
    exact hrest

/-! ### Pieces and placeholders -/

/-- An image that fails leaves the stash as it is, and one that is rendered puts one piece at its
end. -/
theorem image_cases (h : Host ω) (marker : Text) (s : Pass.State ω) :
    (∃ f t, Pass.image h marker s = (.error f, t) ∧ t.stash = s.stash) ∨
      ∃ (a : Answer) (t : Pass.State ω),
        Pass.image h marker s = (.ok (Stash.image s.stash.entries.length), t) ∧
          t.stash = (s.stash.store a.entry).2 := by
  rw [Pass.image]
  rcases hread : Pass.outside (Marker.read h marker) s with ⟨f | eqn, t⟩
  · rw [Action.bind_of_error hread]
    exact Or.inl ⟨f, t, rfl, (Prod.mk.inj hread).2 ▸ rfl⟩
  · rw [Action.bind_of_ok hread]
    have ht : t.stash = s.stash := (Prod.mk.inj hread).2 ▸ rfl
    rcases hrender : Pass.outside (h.render eqn) t with ⟨f | html, u⟩
    · rw [Action.bind_of_error hrender]
      exact Or.inl ⟨f, u, rfl, ht ▸ (Prod.mk.inj hrender).2 ▸ rfl⟩
    · have hu : u.stash = s.stash := ht ▸ (Prod.mk.inj hrender).2 ▸ rfl
      rw [Action.bind_of_ok hrender, Pass.keepHtml_eq ⟨eqn, html⟩, hu]
      exact Or.inr ⟨⟨eqn, html⟩, _, rfl, rfl⟩

/-- The second stash holds the pieces of the first and further ones behind them, for which the
placeholders with their numbers were handed out. -/
def Numbered (s : Stash) (given : List Text) (t : Stash) : Prop :=
  ∃ stored, t.entries = s.entries ++ stored ∧
    given = (List.range' s.entries.length stored.length).map Stash.placeholder

theorem Numbered.refl (s : Stash) : Numbered s [] s := ⟨[], (List.append_nil _).symm, rfl⟩

theorem Numbered.store (s : Stash) (e : Stash.Entry) :
    Numbered s [Stash.placeholder s.entries.length] (s.store e).2 := ⟨[e], rfl, rfl⟩

theorem Numbered.trans {s t u : Stash} {given more : List Text} (hst : Numbered s given t)
    (htu : Numbered t more u) : Numbered s (given ++ more) u := by
  obtain ⟨first, ht, rfl⟩ := hst
  obtain ⟨rest, hu, rfl⟩ := htu
  -- the numbers of the rest begin behind those of the first pieces
  refine ⟨first ++ rest, by rw [hu, ht, List.append_assoc], ?_⟩
  rw [ht, List.length_append, List.length_append, ← List.map_append, List.range'_append_1]

theorem Numbered.extends {s t : Stash} {given : List Text} (hst : Numbered s given t) :
    s.Extends t := by
  obtain ⟨stored, ht, -⟩ := hst
  exact ⟨stored, ht.symm⟩

/-- From an empty stash on, the numbers are those of all pieces. -/
theorem Numbered.of_empty {t : Stash} {given : List Text} (ht : Numbered {} given t) :
    given = (List.range t.entries.length).map Stash.placeholder := by
  obtain ⟨stored, hentries, rfl⟩ := ht
  have hstored : t.entries = stored := hentries
  rw [hstored, List.range_eq_range']
  rfl

/-- An act hands out one placeholder for each piece that it stores, with the number of the piece. -/
theorem Act.perform_numbered (a : Act ω) (c : Session ω) :
    Numbered c.state.stash (a.perform c).1 (a.perform c).2.state.stash := by
  cases a with
  | store e => exact .store c.state.stash e
  | note h t => exact .refl c.state.stash
  | edit f => exact .refl c.state.stash
  | image h marker =>
    simp only [perform]
    rcases image_cases h marker c.state with ⟨f, t, himage, ht⟩ | ⟨a, t, himage, ht⟩ <;>
      simp only [himage, ht]
    · exact .refl c.state.stash
    · exact .store c.state.stash a.entry

/-- **Pieces are numbered in their order,** whatever is done. -/
theorem Act.performAll_numbered (acts : List (Act ω)) (c : Session ω) :
    Numbered c.state.stash (performAll acts c).1 (performAll acts c).2.state.stash := by
  induction acts generalizing c with
  | nil => exact .refl c.state.stash
  | cons a acts ih => exact (a.perform_numbered c).trans (ih (a.perform c).2)

end Session

/-! ### A counter -/

/-- A stash that numbers its pieces by a counter of its own. -/
structure Stash.Counted where
  entries : List Stash.Entry := []
  counter : ℕ := 0

namespace Stash.Counted

/-- Keeps a piece at the end, under the number that the counter shows. -/
def store (s : Counted) (e : Entry) : Text × Counted :=
  (placeholder s.counter, ⟨s.entries ++ [e], s.counter + 1⟩)

/-- Keeps several pieces. -/
def storeAll : List Entry → Counted → List Text × Counted
  | [], s => ([], s)
  | e :: es, s =>
    let first := s.store e
    let rest := storeAll es first.2
    (first.1 :: rest.1, rest.2)

theorem storeAll_eq (es : List Entry) (s : Counted) :
    storeAll es s = ((List.range' s.counter es.length).map placeholder,
      ⟨s.entries ++ es, s.counter + es.length⟩) := by
  induction es generalizing s with
  | nil => simp [storeAll]
  | cons e es ih =>
    simp only [storeAll, ih, store, List.length_cons, List.range'_succ, List.map_cons,
      List.append_assoc, List.singleton_append, Nat.add_assoc, Nat.add_comm 1]

end Stash.Counted

namespace Session

/-- **Placeholders resolve for ever.** From a moment at which the stash is empty, whatever steps are
taken, they come to acts; and after any acts the pieces so far were handed out the placeholders of
the numbers 0, 1, 2 and so on, in their order, which are those that a counter gives. After any
further acts the same pieces stand at the beginning of the stash. A paragraph that names one of them
stands for it if it is HTML, and for nothing otherwise; one that names a number for which there is
no piece stands for nothing. Both are said of numerals up to the length at which they are refused. An
element that names no number, however it is written, stands for nothing. -/
theorem placeholders_resolve (tree : Element) (w : ω) :
    (∀ (steps : List (Step ω)) (c : Session ω), ∃ acts, Step.Comprise steps acts ∧
      (Act.performAll acts c).2 = Step.performAll steps c) ∧
    ∀ (acts later : List (Act ω)) {given more : List Text} {early late : Session ω},
      Act.performAll acts (start tree w) = (given, early) →
      Act.performAll later early = (more, late) →
      given = (List.range early.state.stash.entries.length).map Stash.placeholder ∧
      given.Nodup ∧
      Stash.Counted.storeAll early.state.stash.entries {} =
        (given, ⟨early.state.stash.entries, early.state.stash.entries.length⟩) ∧
      early.state.stash.Extends late.state.stash ∧
      (∀ (e : Element) (n : ℕ) (entry : Stash.Entry), early.state.stash.entries[n]? = some entry →
        Stash.NamesWithin Stash.numeralLimit e n → late.state.stash.value? e = entry.html?) ∧
      (∀ (e : Element) (n : ℕ), late.state.stash.entries.length ≤ n →
        Stash.NamesWithin Stash.numeralLimit e n → late.state.stash.value? e = none) ∧
      ∀ e : Element, (∀ n, ¬ Stash.Names e n) → late.state.stash.value? e = none := by
  refine ⟨exists_acts_of_steps, fun acts later {given more early late} hearly hlate => ?_⟩
  have hnumbered : Numbered (start tree w).state.stash given early.state.stash := by
    simpa only [hearly] using Act.performAll_numbered acts (start tree w)
  have hnumbered' : Numbered early.state.stash more late.state.stash := by
    simpa only [hlate] using Act.performAll_numbered later early
  have hgiven := Numbered.of_empty hnumbered
  have hextends := hnumbered'.extends
  refine ⟨hgiven, ?_, ?_, hextends, fun e n entry hentry hnames => ?_, fun e n hle hnames => ?_,
    fun e hnone => Stash.value?_of_not_names hnone _⟩
  · rw [hgiven]
    exact List.nodup_range.map Stash.placeholder_injective
  · rw [Stash.Counted.storeAll_eq, hgiven, List.range_eq_range', List.nil_append, Nat.zero_add]
  · obtain ⟨hn, -⟩ := List.getElem?_eq_some_iff.1 hentry
    rw [Stash.value?_of_names hnames.names, hextends.getElem? hn, hentry, Option.bind_some]
  · rw [Stash.value?_of_names hnames.names, List.getElem?_eq_none hle, Option.bind_none]

/-- A start marker is stored and rendered, and the pass fails because there is no end marker; the
image stays in the stash, where a paragraph with its placeholder between blanks finds it. -/
theorem placeholders_resolve_unclosed :
    let steps : List (Step Unit) := [.act (.store (.html (Marker.start ⟨['a'], [], ['x']⟩))),
      .run Pass.quoter [], .act (.store (.element "div".toList))]
    let c := start (Element.node "div" [Stash.image 0]) ()
    let e := Element.leaf "p" ('\n' :: Stash.placeholder 1 ++ "\t ".toList)
    (Pass.run Pass.quoter c.tree (Step.performAll (steps.take 1) c).state).failure.isSome ∧
      Stash.NamesWithin Stash.numeralLimit e 1 ∧
      (Step.performAll steps c).state.stash.value? e = some "<p>x</p>".toList := by
  intro steps c e
  have hnames : Stash.NamesWithin Stash.numeralLimit e 1 :=
    ⟨rfl, rfl, ['\n'], "\t ".toList, 0, by decide, by decide, by decide,
      by rw [Stash.padded_zero]; rfl⟩
  obtain ⟨hcomes, hresolve⟩ := placeholders_resolve c.tree ()
  obtain ⟨acts, -, hacts⟩ := hcomes steps c
  obtain ⟨-, -, -, -, hvalue, -⟩ := hresolve acts [] rfl rfl
  have hentry : (Act.performAll acts c).2.state.stash.entries[1]? =
      some (.html "<p>x</p>".toList) := by
    rw [hacts]
    decide +kernel
  refine ⟨by decide +kernel, hnames, ?_⟩
  rw [← hacts]
  exact hvalue e 1 _ hentry hnames

/-- The number of a piece may be written with a zero in front. -/
theorem placeholders_resolve_zero :
    let c := (Act.performAll [.store (.html ['x'])] (start (Element.node "div" []) ())).2
    let e := Element.leaf "p" (Stash.padded 1 0)
    c.state.stash.value? e = some ['x'] ∧ ∀ (n : ℕ) (a b : Text), (∀ c ∈ a, Text.isBlank c) →
      (∀ c ∈ b, Text.isBlank c) → e.text ≠ some (a ++ Stash.placeholder n ++ b) := by
  intro c e
  refine ⟨by decide +kernel, fun n a b ha hb htext => ?_⟩
  have hstrip := congrArg Text.strip (Option.some.inj htext)
  rw [Text.strip_append ha hb, Stash.strip_placeholder] at hstrip
  have hindex := congrArg Stash.index? hstrip
  rw [Stash.index?_placeholder] at hindex
  have hzero : some 0 = some n := hindex
  obtain rfl := Option.some.inj hzero
  -- the numeral of 0 is written with one digit, and here stand two
  exact absurd hstrip (by decide +kernel)

end Session

end MathPage
