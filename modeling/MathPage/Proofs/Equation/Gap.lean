import MathPage.Proofs.Equation.Children
import MathPage.Proofs.Equation.NormalForm

/-!
# Gaps between two markers

An element between two markers is dropped with all that is below it; but the pass goes below it
before.

* `Pass.Agree` – two passes that end in the same way and leave the same tree;
* `Pass.Gap`, `Gap.fill` – a gap between two markers, and a tree with an element in it.

The element plays no part in the work on its siblings (`Gap.scan_children`), so that what is below it
is all that matters: two passes agree if they end in the same way below the two elements that stand
in the gap (`Gap.element_fill`).
-/

namespace MathPage

open Stash

theorem Element.lt_of_atPath? {i : ℕ} {path : List ℕ} {root : Element}
    (hpath : (atPath? (i :: path) root).isSome = true) :
    ∃ hi : i < root.children.length, (atPath? path root.children[i]).isSome = true := by
  rw [atPath?] at hpath
  rcases Nat.lt_or_ge i root.children.length with hi | hi
  · rw [List.getElem?_eq_getElem hi] at hpath
    exact ⟨hi, hpath⟩
  · rw [List.getElem?_eq_none hi] at hpath
    cases hpath

namespace Pass

variable {ω : Type} {h : Host ω} {s₀ : Stash}

/-! ### Two passes -/

/-- Two passes end in the same way, as it is seen beyond a generator. -/
structure Same {α : Type} (p q : Progress ω α) : Prop where
  failure : q.failure.map (Failure.beyond .generator) = p.failure.map (Failure.beyond .generator)
  state : q.state = p.state

/-- Two passes end in the same way, and if they do not fail, they leave the same. -/
structure Agree {α : Type} (p q : Progress ω α) : Prop extends Same p q where
  made : p.failure = none → q.made = p.made

theorem Same.refl {α : Type} (p : Progress ω α) : Same p p := ⟨rfl, rfl⟩

/-- Passes that end in the same way both succeed, or both fail. -/
theorem Same.cases {α : Type} {p q : Progress ω α} (hs : Same p q) :
    (p.failure = none ∧ q.failure = none) ∨
      ∃ f f' : Failure, p.failure = some f ∧ q.failure = some f' ∧
        f'.beyond .generator = f.beyond .generator := by
  have hfailure := hs.failure
  cases hp : p.failure with
  | none =>
    rw [hp, Option.map_none, Option.map_eq_none_iff] at hfailure
    exact Or.inl ⟨rfl, hfailure⟩
  | some f =>
    rw [hp, Option.map_some, Option.map_eq_some_iff] at hfailure
    obtain ⟨f', hq, hf'⟩ := hfailure
    exact Or.inr ⟨f, f', rfl, hq, hf'⟩

theorem Agree.refl {α : Type} (p : Progress ω α) : Agree p p := ⟨Same.refl p, fun _ => rfl⟩

theorem startMarker?_of_place {e e' : Element} (hp : place? e' = place? e) (s : Stash) :
    startMarker? s e' = startMarker? s e := startMarker?_congr (by rw [value?_eq, value?_eq, hp])

theorem isEndMarker_of_place {e e' : Element} (hp : place? e' = place? e) (s : Stash) :
    isEndMarker s e' = isEndMarker s e := isEndMarker_congr (by rw [value?_eq, value?_eq, hp])

/-- The scan of a list does not depend on more than the positions that its elements name. -/
theorem scan_congr (h : Host ω) : ∀ {es es' : List Element}, SamePlaces es es' →
    ∀ s : State ω, scan h es' s = scan h es s
  | _, _, .nil, s => rfl
  | _, _, .cons hp .nil, s => by
    conv_lhs => rw [scan]
    conv_rhs => rw [scan]
    rw [startMarker?_of_place hp]
  | _, _, .cons hp (.cons hp' .nil), s => by
    have hrest := scan_congr h (.cons hp' .nil)
    conv_lhs => rw [scan]
    conv_rhs => rw [scan]
    simp only [startMarker?_of_place hp, isEndMarker_of_place hp', hrest]
  | _, _, .cons hp (.cons hp' (.cons hp'' hes)), s => by
    -- the scan goes on behind one, two or three elements
    have hone := scan_congr h (.cons hp' (.cons hp'' hes))
    have htwo := scan_congr h (.cons hp'' hes)
    have hthree := scan_congr h hes
    conv_lhs => rw [scan]
    conv_rhs => rw [scan]
    simp only [startMarker?_of_place hp, isEndMarker_of_place hp', isEndMarker_of_place hp'', hone,
      htwo, hthree]

theorem SamePlaces.covers {es es' : List Element} (hes : SamePlaces es es')
    (hcovers : ∀ e ∈ es, s₀.Covers e) : ∀ e ∈ es', s₀.Covers e := by
  induction hes with
  | nil => exact hcovers
  | cons hp _ ih =>
    rw [List.forall_mem_cons] at hcovers ⊢
    exact ⟨covers_congr hp hcovers.1, ih hcovers.2⟩

/-! ### A pair behind phrases -/

/-- A gap between two markers: `done` are the siblings in front of the start marker, and `rest` those
behind the end marker. -/
structure Gap where
  done : List Element
  start : Element
  stop : Element
  rest : List Element

namespace Gap

/-- The siblings with an element in the gap. -/
def children (g : Gap) (m : Element) : List Element :=
  g.done ++ g.start :: m :: g.stop :: g.rest

/-- A tree with an element in a gap among the children of the element at a path. -/
def fill (g : Gap) (path : List ℕ) (root m : Element) : Element :=
  root.updateAt (fun e => { e with children := g.children m }) path

/-- The pass comes to the gap behind phrases. -/
structure Fits (s : Stash) (g : Gap) : Prop where
  sentence : ∃ ps, IsSentence s g.done ps
  start : (startMarker? s g.start).isSome = true
  stop : isEndMarker s g.stop = true

/-- The element may stand in the gap: it is no end marker, and all positions named in the tree are
those of pieces. -/
structure Admits (s : Stash) (g : Gap) (path : List ℕ) (root m : Element) : Prop where
  notEnd : isEndMarker s m = false
  covers : ∀ x ∈ (g.fill path root m).within, s.Covers x

variable {g : Gap} {m m' : Element} {s : State ω}

/-- The siblings in front of the element, the element, and those behind. -/
theorem children_eq (g : Gap) (m : Element) :
    g.children m = (g.done ++ [g.start]) ++ m :: (g.stop :: g.rest) := by
  simp [children]

theorem Fits.block (hg : g.Fits s₀) (hm : isEndMarker s₀ m = false) :
    (Phrase.block g.start (some m) g.stop).Fits s₀ :=
  ⟨hg.start, by simpa using hm, hg.stop⟩

theorem children_eq_block (g : Gap) (m : Element) :
    g.children m = g.done ++ ((Phrase.block g.start (some m) g.stop).elements ++ g.rest) := by
  simp [children, Phrase.elements]

theorem covers_block (hcovers : ∀ e ∈ g.children m, s₀.Covers e) :
    ∀ e ∈ (Phrase.block g.start (some m) g.stop).elements, s₀.Covers e := fun e he =>
  hcovers e (by
    rw [children_eq_block]
    exact List.mem_append_right _ (List.mem_append_left _ he))

/-- A scan that comes to the gap behind the siblings in front of it. -/
theorem extends_of_done (hdone : (scan h g.done s).failure = none) (hs : s₀.Extends s.stash) :
    s₀.Extends (scan h g.done s).state.stash := by
  obtain ⟨answers, hedited, -⟩ := edited_of_scan h g.done s hdone
  exact hs.trans hedited.ran.extends

/-- **The element in a gap plays no part in the scan** of the siblings. -/
theorem scan_children (hg : g.Fits s₀) (hm : isEndMarker s₀ m = false)
    (hm' : isEndMarker s₀ m' = false) (hcovers : ∀ e ∈ g.children m, s₀.Covers e)
    (hcovers' : ∀ e ∈ g.children m', s₀.Covers e) (hs : s₀.Extends s.stash) :
    scan h (g.children m') s = scan h (g.children m) s := by
  obtain ⟨ps, hsentence⟩ := hg.sentence
  obtain ⟨marker, hmarker⟩ := Option.isSome_iff_exists.1 hg.start
  have hdone : ∀ e ∈ g.done, s₀.Covers e := fun e he => hcovers e (List.mem_append_left _ he)
  rw [children_eq_block, children_eq_block]
  cases hok : (scan h g.done s).failure with
  | some f =>
    rw [scan_append_of_failed hsentence hdone hs hok, scan_append_of_failed hsentence hdone hs hok]
  | none =>
    have hs' := extends_of_done hok hs
    rw [scan_append_of_ok h _ _ hok, scan_append_of_ok h _ _ hok,
      scan_block (hg.block hm) (covers_block hcovers) hs' hmarker,
      scan_block (hg.block hm') (covers_block hcovers') hs' hmarker]
    rfl

/-- In a scan that does not fail, an image takes the place of the element in the gap. -/
theorem exists_made (hg : g.Fits s₀) (hm : isEndMarker s₀ m = false)
    (hcovers : ∀ e ∈ g.children m, s₀.Covers e) (hs : s₀.Extends s.stash)
    (hok : (scan h (g.children m) s).failure = none) :
    ∃ as new bs, (scan h (g.children m) s).made = as ++ .replace new :: bs ∧
      Edit.reach as = (g.done ++ [g.start]).length := by
  obtain ⟨ps, hsentence⟩ := hg.sentence
  obtain ⟨marker, hmarker⟩ := Option.isSome_iff_exists.1 hg.start
  have hdone : ∀ e ∈ g.done, s₀.Covers e := fun e he => hcovers e (List.mem_append_left _ he)
  rw [children_eq_block] at hok ⊢
  cases hfailure : (scan h g.done s).failure with
  | some f =>
    rw [scan_append_of_failed hsentence hdone hs hfailure, hfailure] at hok
    cases hok
  | none =>
    obtain ⟨answers, hedited, -⟩ := edited_of_scan h g.done s hfailure
    rw [scan_append_of_ok h _ _ hfailure, scan_block (hg.block hm) (covers_block hcovers)
      (extends_of_done hfailure hs) hmarker] at hok ⊢
    rcases hopened : opened h marker (scan h g.done s).state with ⟨f | new, s₁⟩
    · simp only [hopened] at hok
      cases hok
    rcases hnote : note h (Phrase.notice (some m)) s₁ with ⟨f | _, s₂⟩
    · simp only [hopened, hnote] at hok
      cases hok
    refine ⟨(scan h g.done s).made ++ [.keep], new, .keep :: (scan h g.rest s₂).made, ?_, ?_⟩
    · simp [hnote, Progress.pair, Phrase.edits]
    · rw [Edit.reach_append, hedited.reach, List.length_append]
      rfl

end Gap

/-! ### Elements with different children -/

/-- Several elements of which one gives way to another. If the passes below the two end in the same
way, so do those below all. -/
theorem siblings_swap {x x' : Element} (post : List Element)
    (hx : ∀ t : State ω, s₀.Extends t.stash → Same (element h x t) (element h x' t)) :
    ∀ (pre : List Element) (t : State ω), s₀.Extends t.stash →
      Same (siblings h (pre ++ x :: post) t) (siblings h (pre ++ x' :: post) t) ∧
      ((siblings h (pre ++ x :: post) t).failure = none → ∃ pre' u post',
        pre'.length = pre.length ∧ s₀.Extends u.stash ∧ (element h x u).failure = none ∧
        (siblings h (pre ++ x :: post) t).made = pre' ++ (element h x u).made :: post' ∧
        (siblings h (pre ++ x' :: post) t).made = pre' ++ (element h x' u).made :: post')
  | [], t, ht => by
    have hstate := (hx t ht).state
    obtain ⟨hfirst, hfirst'⟩ | ⟨f, f', hf, hf', hbeyond⟩ := (hx t ht).cases
    · simp only [List.nil_append, siblings, hfirst, hfirst', hstate]
      exact ⟨⟨rfl, rfl⟩, fun _ => ⟨[], t, _, rfl, ht, hfirst, rfl, rfl⟩⟩
    · simp only [List.nil_append, siblings, hf, hf', hstate]
      exact ⟨⟨congrArg some hbeyond, rfl⟩, fun hok => by cases hok⟩
  | e :: pre, t, ht => by
    cases hfirst : (element h e t).failure with
    | some f =>
      simp only [List.cons_append, siblings, hfirst]
      exact ⟨⟨rfl, rfl⟩, fun hok => by cases hok⟩
    | none =>
      obtain ⟨answers, hworked, -⟩ := element_worked h e t hfirst
      obtain ⟨hsame, hmade⟩ := siblings_swap post hx pre (element h e t).state
        (ht.trans hworked.ran.extends)
      simp only [List.cons_append, siblings, hfirst]
      refine ⟨⟨hsame.failure, hsame.state⟩, fun hok => ?_⟩
      obtain ⟨pre', u, post', hlength, hu, hx', hmade, hmade'⟩ := hmade hok
      exact ⟨(element h e t).made :: pre', u, post', congrArg (· + 1) hlength, hu, hx',
        congrArg (_ :: ·) hmade, congrArg (_ :: ·) hmade'⟩

/-- An element of which one child gives way to another. The passes agree if those below the two end
in the same way and the edits of the children come to the same. -/
theorem element_swap {x x' : Element} (e : Element) (pre post : List Element) {t : State ω}
    (ht : s₀.Extends t.stash)
    (hscan : scan h (pre ++ x' :: post) t = scan h (pre ++ x :: post) t)
    (hx : ∀ u : State ω, s₀.Extends u.stash → Same (element h x u) (element h x' u))
    (hmade : (scan h (pre ++ x :: post) t).failure = none → ∀ pre' u post',
      pre'.length = pre.length → s₀.Extends u.stash → (element h x u).failure = none →
        Edit.apply (scan h (pre ++ x :: post) t).made (pre' ++ (element h x' u).made :: post') =
          Edit.apply (scan h (pre ++ x :: post) t).made (pre' ++ (element h x u).made :: post')) :
    Agree (element h { e with children := pre ++ x :: post } t)
      (element h { e with children := pre ++ x' :: post } t) := by
  obtain ⟨tag, attributes, text, literal, children, tail⟩ := e
  simp only [element, hscan]
  cases hfailure : (scan h (pre ++ x :: post) t).failure with
  | some f => exact ⟨⟨rfl, rfl⟩, fun hok => by cases hok⟩
  | none =>
    obtain ⟨answers, hedited, -⟩ := edited_of_scan h _ t hfailure
    obtain ⟨hsame, hbelow⟩ := siblings_swap post hx pre (scan h (pre ++ x :: post) t).state
      (ht.trans hedited.ran.extends)
    refine ⟨⟨hsame.failure, hsame.state⟩, fun hok => ?_⟩
    obtain ⟨pre', u, post', hlength, hu, hx', hone, hother⟩ := hbelow hok
    simp only [hone, hother, hmade hfailure pre' u post' hlength hu hx']

/-! ### Trees with an element in a gap -/

namespace Gap

variable {g : Gap} {m m' : Element} {i : ℕ} {path : List ℕ} {root : Element}

theorem fill_cons (g : Gap) (path : List ℕ) (hi : i < root.children.length) (m : Element) :
    g.fill (i :: path) root m =
      { root with
        children := root.children.take i ++ g.fill path root.children[i] m ::
          root.children.drop (i + 1) } := by
  rw [fill, Element.updateAt, List.modify_eq_take_cons_drop hi]
  rfl

/-- A path out of the tree. -/
theorem fill_of_length_le (g : Gap) (path : List ℕ) (hi : root.children.length ≤ i) (m : Element) :
    g.fill (i :: path) root m = root := by
  obtain ⟨tag, attributes, text, literal, es, tail⟩ := root
  rw [fill, Element.updateAt, List.modify_eq_self hi]

theorem Admits.covers_children (hm : g.Admits s₀ [] root m) : ∀ e ∈ g.children m, s₀.Covers e :=
  fun e he => hm.covers e (by
    rw [Element.within_eq]
    exact List.mem_cons_of_mem _ (Element.mem_withinAll_of_mem he))

theorem Admits.covers_siblings (hi : i < root.children.length)
    (hm : g.Admits s₀ (i :: path) root m) : ∀ e ∈ root.children.take i ++
      g.fill path root.children[i] m :: root.children.drop (i + 1), s₀.Covers e :=
  fun e he => hm.covers e (by
    rw [fill_cons g path hi, Element.within_eq]
    exact List.mem_cons_of_mem _ (Element.mem_withinAll_of_mem he))

theorem Admits.of_cons (hi : i < root.children.length) (hm : g.Admits s₀ (i :: path) root m) :
    g.Admits s₀ path root.children[i] m where
  notEnd := hm.notEnd
  covers x hx := hm.covers x (by
    rw [fill_cons g path hi, Element.within_eq]
    exact List.mem_cons_of_mem _ (Element.mem_withinAll.2 ⟨_, by simp, hx⟩))

/-- Which position an element names does not depend on what is in a gap below it. -/
theorem place?_fill (g : Gap) (path : List ℕ) (root m m' : Element) :
    place? (g.fill path root m') = place? (g.fill path root m) := by
  cases path with
  | nil =>
    have hnone : ∀ x, place? (g.fill [] root x) = none := fun x =>
      place?_eq_none_of_children (by simp [fill, Element.updateAt, children])
    rw [hnone, hnone]
  | cons i path =>
    rcases Nat.lt_or_ge i root.children.length with hi | hi
    · rw [fill_cons g path hi, fill_cons g path hi, place?_eq_none_of_children (by simp),
        place?_eq_none_of_children (by simp)]
    · rw [fill_of_length_le g path hi, fill_of_length_le g path hi]

theorem samePlaces_fill (g : Gap) (path : List ℕ) (c m m' : Element) (pre post : List Element) :
    SamePlaces (pre ++ g.fill path c m :: post) (pre ++ g.fill path c m' :: post) := by
  induction pre with
  | nil => exact .cons (place?_fill g path c m m') (List.forall₂_same.2 fun _ _ => rfl)
  | cons e pre ih => exact .cons rfl ih

/-- **What is below an element in a gap is all that matters of it.** -/
theorem element_fill (hg : g.Fits s₀)
    (hbelow : ∀ t : State ω, s₀.Extends t.stash → Same (element h m t) (element h m' t)) :
    ∀ (path : List ℕ) (root : Element), g.Admits s₀ path root m → g.Admits s₀ path root m' →
      ∀ t : State ω, s₀.Extends t.stash →
        Agree (element h (g.fill path root m) t) (element h (g.fill path root m') t)
  | [], root, hm, hm', t, ht => by
    have hscan := scan_children (h := h) hg hm.notEnd hm'.notEnd hm.covers_children
      hm'.covers_children ht
    have hmade := exists_made (h := h) hg hm.notEnd hm.covers_children ht
    rw [children_eq g m] at hscan hmade
    rw [children_eq g m'] at hscan
    show Agree (element h { root with children := g.children m } t)
      (element h { root with children := g.children m' } t)
    rw [children_eq, children_eq]
    refine element_swap root _ _ ht hscan hbelow fun hok pre' u post' hlength _ _ => ?_
    obtain ⟨as, new, bs, hmade, hreach⟩ := hmade hok
    rw [hmade, Edit.apply_append (hreach.trans hlength.symm),
      Edit.apply_append (hreach.trans hlength.symm)]
    rfl
  | i :: path, root, hm, hm', t, ht => by
    rcases Nat.lt_or_ge i root.children.length with hi | hi
    · have hchild := element_fill hg hbelow path _ (hm.of_cons hi) (hm'.of_cons hi)
      rw [fill_cons g path hi, fill_cons g path hi]
      refine element_swap root _ _ ht (scan_congr h (samePlaces_fill g path _ m m' _ _) t)
        (fun u hu => (hchild u hu).toSame) fun _ pre' u post' _ hu hok => ?_
      rw [(hchild u hu).made hok]
    · rw [fill_of_length_le g path hi, fill_of_length_le g path hi]
      exact .refl _

end Gap

end Pass

end MathPage
