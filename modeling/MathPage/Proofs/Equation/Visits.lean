import MathPage.Proofs.Equation.Rework

/-!
# Visits to single elements

A pass visits the elements that have children, in document order, and works on the children of one
after the other. An element is visited as it then is, with all that was done below it, and also if it
is in an element that was replaced meanwhile.

* `Element.parents` – the paths of the elements with children, in document order;
* `Pass.childrenAt` – a visit to the element at a path;
* `Pass.visit`, `Pass.visits` – a visit to an element of a tree that was edited since, and several
  visits, each to another element.

A visit to an element that is still in the tree is one to the element at its new path
(`childrenAt_rework`). A pass is the visits in document order (`element_visits`).
-/

namespace MathPage

variable {ω : Type}

namespace Element

mutual

/-- The paths of the elements that have children, in document order. -/
def parents : Element → List (List ℕ)
  | ⟨_, _, _, _, children, _⟩ =>
    match children with
    | [] => []
    | e :: es => [] :: parentsAll 0 (e :: es)

/-- The same for the children of an element, from the one at a given position on. -/
def parentsAll : ℕ → List Element → List (List ℕ)
  | _, [] => []
  | i, e :: es => (parents e).map (i :: ·) ++ parentsAll (i + 1) es

end

theorem exists_of_mem_parentsAll {k : ℕ} {es : List Element} {p : List ℕ}
    (hp : p ∈ parentsAll k es) : ∃ i q, p = i :: q ∧ k ≤ i := by
  induction es generalizing k with
  | nil => cases hp
  | cons e es ih =>
    rcases List.mem_append.1 hp with hp | hp
    · obtain ⟨q, -, rfl⟩ := List.mem_map.1 hp
      exact ⟨k, q, rfl, le_rfl⟩
    · obtain ⟨i, q, rfl, hi⟩ := ih hp
      exact ⟨i, q, rfl, Nat.le_of_succ_le hi⟩

mutual

/-- No element is listed twice. -/
theorem nodup_parents : ∀ e : Element, e.parents.Nodup
  | ⟨_, _, _, _, [], _⟩ => List.nodup_nil
  | ⟨_, _, _, _, e :: es, _⟩ => by
    rw [parents, List.nodup_cons]
    refine ⟨fun hnil => ?_, nodup_parentsAll 0 (e :: es)⟩
    obtain ⟨i, q, h, -⟩ := exists_of_mem_parentsAll hnil
    cases h

theorem nodup_parentsAll : ∀ (k : ℕ) (es : List Element), (parentsAll k es).Nodup
  | _, [] => List.nodup_nil
  | k, e :: es => by
    rw [parentsAll, List.nodup_append]
    refine ⟨(nodup_parents e).map fun p q h => (List.cons.inj h).2, nodup_parentsAll (k + 1) es, ?_⟩
    rintro p hp q hq rfl
    obtain ⟨r, -, rfl⟩ := List.mem_map.1 hp
    obtain ⟨i, r', h, hi⟩ := exists_of_mem_parentsAll hq
    have := (List.cons.inj h).1
    omega

end

/-- The children of an element of the tree as they are after the edits, whether or not the element is
still in the tree. -/
def childrenAfter (E : Edits) (p : List ℕ) (root : Element) : List Element :=
  match root.atPath? p with
  | some e => (e.rework (E.below p)).children
  | none => []

theorem childrenAfter_eq {E : Edits} {p : List ℕ} {root e : Element} (he : root.atPath? p = some e)
    (hp : E p = []) : root.childrenAfter E p = reworkAll (E.below p) 0 e.children := by
  have hown : E.below p [] = [] := by rwa [Edits.below_apply, List.append_nil]
  rw [childrenAfter, he]
  simp only [rework_children, hown, Edit.apply]

theorem childrenAfter_nil {p : List ℕ} {root e : Element} (he : root.atPath? p = some e) :
    root.childrenAfter Edits.nil p = e.children := by
  rw [childrenAfter_eq he rfl, Edits.nil_below, reworkAll_nil]

end Element

namespace Pass

variable {h : Host ω} {root : Element} {E : Edits} {p : List ℕ} {s : State ω}

/-- Works on the children of the element at a path, and on nothing else. -/
def childrenAt (h : Host ω) (p : List ℕ) (root : Element) (s : State ω) : Progress ω Element :=
  match root.atPath? p with
  | some e =>
    let c := children h e s
    { c with made := root.updateAt (fun _ => c.made) p }
  | none => ⟨root, 0, none, s⟩

/-- Works on the children of an element of the tree as they are after the edits. -/
def visit (h : Host ω) (root : Element) (p : List ℕ) (E : Edits) (s : State ω) :
    Progress ω Edits :=
  let c := scan h (root.childrenAfter E p) s
  { c with made := E.set p c.made }

/-- Visits several elements of the tree, each once, up to the first failure. -/
def visits (h : Host ω) (root : Element) : List (List ℕ) → Edits → State ω → Progress ω Edits
  | [], E, s => ⟨E, 0, none, s⟩
  | p :: ps, E, s =>
    let v := visit h root p E s
    match v.failure with
    | some _ => v
    | none =>
      let w := visits h root ps v.made v.state
      { w with count := v.count + w.count }

/-- **A visit to an element that is still in the tree** is one to the element at its path. -/
theorem childrenAt_rework {q : List ℕ} {e : Element} (he : root.atPath? p = some e)
    (hq : E.track p = some q) (hp : E p = []) (h : Host ω) (s : State ω) :
    childrenAt h q (root.rework E) s =
      { visit h root p E s with made := root.rework (visit h root p E s).made } := by
  have hat := Element.atPath?_rework he hq
  have hafter : root.childrenAfter E p = (e.rework (E.below p)).children := by
    rw [Element.childrenAfter, he]
  simp only [childrenAt, hat, visit, hafter, children]
  rw [← Element.updateAt_rework he hq hp, Element.updateAt_congr hat]
  rfl

/-! ### The visits of a pass -/

theorem visits_append (h : Host ω) (root : Element) (ps qs : List (List ℕ)) (E : Edits)
    (s : State ω) :
    visits h root (ps ++ qs) E s =
      let v := visits h root ps E s
      match v.failure with
      | some _ => v
      | none =>
        let w := visits h root qs v.made v.state
        { w with count := v.count + w.count } := by
  induction ps generalizing E s with
  | nil => simp only [List.nil_append, visits, Nat.zero_add]
  | cons p ps ih =>
    rw [List.cons_append, visits, visits]
    cases hv : (visit h root p E s).failure with
    | some f => simp only [hv]
    | none =>
      simp only [ih]
      cases hw : (visits h root ps (visit h root p E s).made (visit h root p E s).state).failure with
      | some f => simp only [hw]
      | none => simp only [Nat.add_assoc]

mutual

/-- **A pass visits the elements in document order.** At an element of the tree below which nothing
was done, the visits to it and to what is below it do what the pass does there, and nothing else. -/
theorem element_visits (h : Host ω) (root : Element) : ∀ (e : Element) (p : List ℕ) (E : Edits)
    (s : State ω), root.atPath? p = some e → E.below p = Edits.nil →
    ∃ E', visits h root (e.parents.map (p ++ ·)) E s =
        ⟨E', (element h e s).count, (element h e s).failure, (element h e s).state⟩ ∧
      e.rework (E'.below p) = (element h e s).made ∧ ∀ r, ¬ p <+: r → E' r = E r
  | ⟨tag, attributes, text, literal, [], tail⟩, p, E, s, _, hE =>
    ⟨E, rfl, by rw [hE, Element.rework_nil]; rfl, fun _ _ => rfl⟩
  | ⟨tag, attributes, text, literal, c :: cs, tail⟩, p, E, s, he, hE => by
    have hafter : root.childrenAfter E p = c :: cs := by
      rw [Element.childrenAfter, he]
      simp only [hE, Element.rework_nil]
    have hset : (E.set p (scan h (c :: cs) s).made).below p =
        Edits.nil.set [] (scan h (c :: cs) s).made := by rw [Edits.set_below, hE]
    rw [Element.parents, List.map_cons, List.append_nil, visits, visit, hafter, element]
    cases hscan : (scan h (c :: cs) s).failure with
    | some f =>
      refine ⟨_, rfl, ?_, fun r hr => Edits.set_of_ne fun heq => hr (heq ▸ List.prefix_refl _)⟩
      simp only [hset, Element.rework_set_nil, Element.reworkAll_nil]
    | none =>
      have hat : ∀ i x, (c :: cs)[i]? = some x → root.atPath? (p ++ [0 + i]) = some x := by
        intro i x hx
        rw [Element.atPath?_append, he, Option.bind_some, Nat.zero_add]
        exact Element.atPath?_cons.2 ⟨x, hx, rfl⟩
      have hbelow : ∀ i, (E.set p (scan h (c :: cs) s).made).below (p ++ [0 + i]) = Edits.nil := by
        intro i
        rw [← Edits.below_below, hset, Edits.set_nil_below, Edits.nil_below]
      obtain ⟨E', hvisits, hmade, hrest⟩ := siblings_visits h root (c :: cs) 0 p _
        (scan h (c :: cs) s).state hat hbelow
      have hp : E' p = (scan h (c :: cs) s).made := by
        rw [hrest p fun i _ hi => ?_, Edits.set_self]
        have hlen := hi.length_le
        rw [List.length_append, List.length_singleton] at hlen
        omega
      refine ⟨E', by simp only [hvisits], ?_, fun r hr => ?_⟩
      · simp only [Element.rework, Edits.below_apply, List.append_nil, hp, hmade]
      · rw [hrest r fun i _ hi => hr ((List.prefix_append _ _).trans hi)]
        exact Edits.set_of_ne fun heq => hr (heq ▸ List.prefix_refl _)

/-- The same for children of an element, from the one at a given position on. -/
theorem siblings_visits (h : Host ω) (root : Element) : ∀ (es : List Element) (k : ℕ) (p : List ℕ)
    (E : Edits) (s : State ω), (∀ i e, es[i]? = some e → root.atPath? (p ++ [k + i]) = some e) →
    (∀ i, E.below (p ++ [k + i]) = Edits.nil) →
    ∃ E', visits h root ((Element.parentsAll k es).map (p ++ ·)) E s =
        ⟨E', (siblings h es s).count, (siblings h es s).failure, (siblings h es s).state⟩ ∧
      Element.reworkAll (E'.below p) k es = (siblings h es s).made ∧
      ∀ r, (∀ i, k ≤ i → ¬ p ++ [i] <+: r) → E' r = E r
  | [], k, p, E, s, _, _ => ⟨E, rfl, rfl, fun _ _ => rfl⟩
  | e :: es, k, p, E, s, hat, hE => by
    obtain ⟨E₁, hvisits, hmade, hrest⟩ := element_visits h root e (p ++ [k]) E s (hat 0 e rfl) (hE 0)
    have hpaths : ((Element.parentsAll k (e :: es)).map (p ++ ·)) =
        e.parents.map (p ++ [k] ++ ·) ++ (Element.parentsAll (k + 1) es).map (p ++ ·) := by
      simp [Element.parentsAll]
    -- what is behind the first child is not touched by the visits to it
    have hbehind : ∀ i, E₁.below (p ++ [k + 1 + i]) = Edits.nil := by
      intro i
      rw [← hE (1 + i)]
      funext r
      simp only [Edits.below_apply, ← Nat.add_assoc]
      refine hrest _ fun hfront => ?_
      rw [List.append_assoc, List.prefix_append_right_inj, List.singleton_append,
        List.cons_prefix_cons] at hfront
      omega
    rw [hpaths, visits_append, hvisits, siblings]
    cases hfirst : (element h e s).failure with
    | some f =>
      refine ⟨E₁, rfl, ?_, fun r hr => hrest r (hr k le_rfl)⟩
      have hsame : Element.reworkAll (E₁.below p) (k + 1) es = es := by
        refine (Element.reworkAll_congr fun i _ => ?_).trans (Element.reworkAll_nil (k + 1) es)
        rw [Edits.below_below, hbehind, Edits.nil_below]
      rw [Element.reworkAll, Edits.below_below, hmade, hsame]
    | none =>
      have hat' : ∀ i x, es[i]? = some x → root.atPath? (p ++ [k + 1 + i]) = some x := by
        intro i x hx
        rw [Nat.add_assoc, Nat.add_comm 1 i]
        exact hat (i + 1) x hx
      obtain ⟨E₂, hvisits', hmade', hrest'⟩ := siblings_visits h root es (k + 1) p E₁
        (element h e s).state hat' hbehind
      have hfirst' : E₂.below (p ++ [k]) = E₁.below (p ++ [k]) := by
        funext r
        refine hrest' _ fun i hi hfront => ?_
        rw [List.append_assoc, List.prefix_append_right_inj, List.singleton_append,
          List.cons_prefix_cons] at hfront
        omega
      refine ⟨E₂, by simp only [hvisits'], ?_, fun r hr => ?_⟩
      · rw [Element.reworkAll, Edits.below_below, hfirst', hmade, hmade']
      · rw [hrest' r fun i hi => hr i (Nat.le_of_succ_le hi), hrest r (hr k le_rfl)]

end

end Pass

end MathPage
