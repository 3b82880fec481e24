import MathPage.Proofs.Equation.Record
import MathPage.Proofs.Equation.Revision

/-!
# Where a pass stops that fails

A failure ends a pass at one start marker: the pairs in front of it have their images, and from it on
everything is as it was (`run_stopped`). The pass ends with what the failure becomes beyond the
generator that it has to leave: with the failure itself, unless the renderer or the logger signals
the end of an iteration (`run_stopped_exhausted`).

* `Pass.Ended` – what a start marker does at which a pass ends, whatever the reason;
* `Element.Cursor` – a place among the children of an element of a tree;
* `Pass.Fault`, `Pass.Silenced` – the reasons, with the call that the marker made and the piece that
  it left behind: a fault of the marker or of the renderer, and a message that the logger refused;
* `Pass.Stopped` – what a pass leaves that ended at a place.
-/

namespace MathPage

open Stash

namespace Pass

variable {ω : Type} {h : Host ω}

/-! ### One start marker -/

/-- What a start marker does at which a pass ends with the failure `f`; behind the marker stand the
elements `rest`. -/
inductive Ended (h : Host ω) (marker : Text) (rest : List Element) (s : State ω) (f : Failure)
    (t : State ω) : Prop where
  /-- its attributes cannot be read -/
  | unreadable (hattributes : Marker.attributes marker = .error f) (hstash : t.stash = s.stash)
    (hlogged : h.Logged s.outside t.outside)
  /-- the renderer fails -/
  | unrendered {eqn : Equation} {w : ω} (hattributes : Marker.attributes marker = .ok eqn)
    (hlogged : h.Logged s.outside w) (hrender : h.render eqn w = (.error f, t.outside))
    (hstash : t.stash = s.stash)
  /-- the renderer answers, and there is no end marker -/
  | unclosed {a : Answer} {s₁ : State ω} (hrendered : Rendered h marker a s s₁)
    (hend : ∀ e ∈ rest.take 2, isEndMarker s₁.stash e = false) (hf : f = .block marker)
    (hstash : t.stash = s₁.stash) (hlogged : h.Logged s₁.outside t.outside)
  /-- a message is refused before the renderer is called -/
  | refused (hrefused : h.Refuses f) (hstash : t.stash = s.stash)
    (hlogged : h.Logged s.outside t.outside)
  /-- a message is refused after the renderer has answered -/
  | refusedBehind {a : Answer} {s₁ : State ω} (hrendered : Rendered h marker a s s₁)
    (hrefused : h.Refuses f) (hstash : t.stash = s₁.stash)
    (hlogged : h.Logged s₁.outside t.outside)

theorem refuses_of_note {t : Text} {s s₁ : State ω} {f : Failure}
    (hn : note h t s = (.error f, s₁)) : h.Refuses f :=
  ⟨.debug, t, s.outside, congrArg Prod.fst hn⟩

theorem outside_eq_error {α : Type} {a : Action ω α} {s s₁ : State ω} {f : Failure}
    (ho : outside a s = (.error f, s₁)) :
    s₁.stash = s.stash ∧ a s.outside = (.error f, s₁.outside) := by
  obtain ⟨hf, rfl⟩ := Prod.mk.inj ho
  exact ⟨rfl, Prod.ext hf rfl⟩

/-- A start marker that is not rendered ends the pass. -/
theorem ended_of_opened {marker : Text} {s t : State ω} {f : Failure}
    (ho : opened h marker s = (.error f, t)) (rest : List Element) : Ended h marker rest s f t := by
  rcases Action.bind_eq_error ho with hnote | ⟨_, u, hnote, ho⟩
  · obtain ⟨hstash, hlogged⟩ := note_eq hnote
    exact .refused (refuses_of_note hnote) hstash hlogged
  obtain ⟨hu, hlog⟩ := note_eq hnote
  rcases Action.bind_eq_error ho with hread | ⟨eqn, v, hread, ho⟩
  · obtain ⟨ht, hread⟩ := outside_eq_error hread
    obtain ⟨hreason, hlog'⟩ := Marker.read_eq_error hread
    have hstash : t.stash = s.stash := ht.trans hu
    rcases hreason with hattributes | hrefused
    · exact .unreadable hattributes hstash (hlog.trans hlog')
    · exact .refused hrefused hstash (hlog.trans hlog')
  obtain ⟨hv, hread⟩ := outside_eq_ok hread
  obtain ⟨hattributes, hlog'⟩ := Marker.read_eq_ok hread
  rcases Action.bind_eq_error ho with hrender | ⟨html, w, -, ho⟩
  · obtain ⟨ht, hrender⟩ := outside_eq_error hrender
    exact .unrendered hattributes (hlog.trans hlog') hrender (ht.trans (hv.trans hu))
  · rw [keepHtml_eq ⟨eqn, html⟩] at ho
    cases ho

/-- A start marker that is rendered and has no end marker ends the pass. -/
theorem Rendered.ended_of_unclosed {marker : Text} {a : Answer} {s s₁ t : State ω} {f : Failure}
    (hrendered : Rendered h marker a s s₁) (hu : unclosed h marker s₁ = (.error f, t))
    {rest : List Element} (hend : ∀ e ∈ rest.take 2, isEndMarker s₁.stash e = false) :
    Ended h marker rest s f t := by
  rcases Action.bind_eq_error hu with hnote | ⟨_, u, hnote, hfail⟩
  · obtain ⟨hstash, hlogged⟩ := note_eq hnote
    exact .refusedBehind hrendered (refuses_of_note hnote) hstash hlogged
  · obtain ⟨hstash, hlogged⟩ := note_eq hnote
    obtain ⟨hf, rfl⟩ := Prod.mk.inj hfail
    exact .unclosed hrendered hend (Except.error.inj hf).symm hstash hlogged

/-- A start marker that is rendered and cannot be reported ends the pass. -/
theorem Rendered.ended_of_note {marker t : Text} {a : Answer} {s s₁ s₂ : State ω} {f : Failure}
    (hrendered : Rendered h marker a s s₁) (hn : note h t s₁ = (.error f, s₂))
    (rest : List Element) : Ended h marker rest s f s₂ := by
  obtain ⟨hstash, hlogged⟩ := note_eq hn
  exact .refusedBehind hrendered (refuses_of_note hn) hstash hlogged

/-! ### Lists of siblings -/

/-- A list of siblings is edited up to an element `e` that stands for the start marker at which the
pass ends. -/
structure StoppedIn (h : Host ω) (es : List Element) (s : State ω) (edits : List Edit)
    (done : List Element) (e : Element) (rest : List Element) (answers : List Answer)
    (marker : Text) (s₁ : State ω) (f : Failure) (t : State ω) : Prop where
  split : es = done ++ e :: rest
  edited : Edited h done s edits answers s₁
  start : startMarker? s₁.stash e = some marker
  ended : Ended h marker rest s₁ f t

theorem StoppedIn.first {e : Element} {rest : List Element} {s t : State ω} {marker : Text}
    {f : Failure} (hstart : startMarker? s.stash e = some marker)
    (hended : Ended h marker rest s f t) :
    StoppedIn h (e :: rest) s [] [] e rest [] marker s f t :=
  ⟨rfl, .nil s, hstart, hended⟩

/-- **A scan that a failure ends stops at one start marker.** -/
theorem stoppedIn_of_scan (h : Host ω) (es : List Element) (s : State ω) {f : Failure}
    (hf : (scan h es s).failure = some f) :
    ∃ done e rest answers marker s₁, StoppedIn h es s (scan h es s).made done e rest answers marker
      s₁ f (scan h es s).state := by
  fun_induction scan h es s with
  | case1 => cases hf
  | case2 e rest s hplain p ih =>
    obtain ⟨done, e', rest', answers, marker, s₁, hstop⟩ := ih hf
    exact ⟨e :: done, e', rest', answers, marker, s₁, congrArg (e :: ·) hstop.split,
      .plain hplain hstop.edited, hstop.start, hstop.ended⟩
  -- the marker is not rendered
  | case3 e rest s marker hstart f' s₁ hopened =>
    obtain rfl := Option.some.inj hf
    exact ⟨_, _, _, _, _, _, .first hstart (ended_of_opened hopened rest)⟩
  -- nothing stands behind it
  | case4 e s marker hstart new s₁ hopened f' s₂ hunclosed =>
    obtain rfl := Option.some.inj hf
    obtain ⟨a, hrendered, -⟩ := opened_eq_ok hopened
    exact ⟨_, _, _, _, _, _, .first hstart (hrendered.ended_of_unclosed hunclosed (by simp))⟩
  | case5 | case9 | case13 => exact absurd ‹unclosed h _ _ = _› unclosed_ne_ok
  -- an end marker stands right behind it
  | case6 e s marker hstart new s₁ hopened stop rest hstop f' s₂ hnote =>
    obtain rfl := Option.some.inj hf
    obtain ⟨a, hrendered, -⟩ := opened_eq_ok hopened
    exact ⟨_, _, _, _, _, _, .first hstart (hrendered.ended_of_note hnote _)⟩
  | case7 e s marker hstart new s₁ hopened stop rest hstop _ s₂ hnote ih =>
    obtain ⟨done, e', rest', answers, marker', s₃, hstop'⟩ := ih hf
    obtain ⟨a, hrendered, rfl⟩ := opened_eq_ok hopened
    obtain ⟨hstash, hlogged⟩ := note_eq hnote
    exact ⟨e :: stop :: done, e', rest', a :: answers, marker', s₃,
      congrArg (e :: stop :: ·) hstop'.split,
      .insert hstart hrendered hstop hstash hlogged hstop'.edited, hstop'.start, hstop'.ended⟩
  -- another element stands behind it, and nothing else
  | case8 e s marker hstart new s₁ hopened next hnext f' s₂ hunclosed =>
    obtain rfl := Option.some.inj hf
    obtain ⟨a, hrendered, -⟩ := opened_eq_ok hopened
    have hend : ∀ e ∈ [next].take 2, isEndMarker s₁.stash e = false := by simpa using hnext
    exact ⟨_, _, _, _, _, _, .first hstart (hrendered.ended_of_unclosed hunclosed hend)⟩
  -- an element stands between it and its end marker
  | case10 e s marker hstart new s₁ hopened old hold stop rest hstop f' s₂ hnote =>
    obtain rfl := Option.some.inj hf
    obtain ⟨a, hrendered, -⟩ := opened_eq_ok hopened
    exact ⟨_, _, _, _, _, _, .first hstart (hrendered.ended_of_note hnote _)⟩
  | case11 e s marker hstart new s₁ hopened old hold stop rest hstop _ s₂ hnote ih =>
    obtain ⟨done, e', rest', answers, marker', s₃, hstop'⟩ := ih hf
    obtain ⟨a, hrendered, rfl⟩ := opened_eq_ok hopened
    obtain ⟨hstash, hlogged⟩ := note_eq hnote
    exact ⟨e :: old :: stop :: done, e', rest', a :: answers, marker', s₃,
      congrArg (e :: old :: stop :: ·) hstop'.split,
      .replace hstart hrendered (Bool.eq_false_iff.2 hold) hstop hstash hlogged hstop'.edited,
      hstop'.start, hstop'.ended⟩
  -- the second element behind it is no end marker either
  | case12 e s marker hstart new s₁ hopened next hnext third rest hthird f' s₂ hunclosed =>
    obtain rfl := Option.some.inj hf
    obtain ⟨a, hrendered, -⟩ := opened_eq_ok hopened
    have hend : ∀ e ∈ (next :: third :: rest).take 2, isEndMarker s₁.stash e = false := by
      simpa using And.intro (Bool.eq_false_iff.2 hnext) (Bool.eq_false_iff.2 hthird)
    exact ⟨_, _, _, _, _, _, .first hstart (hrendered.ended_of_unclosed hunclosed hend)⟩

end Pass

/-! ### Trees -/

/-- A place among the children of one of several elements: the elements before and behind that one,
and its children before and behind the place. -/
structure Element.Cursor (es : List Element) where
  before : List Element
  parent : Element
  behind : List Element
  done : List Element
  here : Element
  rest : List Element
  split : es = before ++ parent :: behind
  children : parent.children = done ++ here :: rest

namespace Element.Cursor

/-- The lists of siblings in front of a place, the last of them cut off there. -/
def lists {es : List Element} (c : Cursor es) : List (List Element) :=
  c.before.map Element.children ++ [c.done]

/-- The same place with more elements behind. -/
def left {es : List Element} (c : Cursor es) (more : List Element) : Cursor (es ++ more) :=
  { c with behind := c.behind ++ more, split := by simp [c.split] }

/-- The same place with more elements in front. -/
def right (more : List Element) {es : List Element} (c : Cursor es) : Cursor (more ++ es) :=
  { c with before := more ++ c.before, split := by simp [c.split] }

@[simp] theorem lists_right (more : List Element) {es : List Element} (c : Cursor es) :
    (right more c).lists = more.map Element.children ++ c.lists := by
  simp [lists, right]

theorem length_lists_le {es : List Element} (c : Cursor es) : c.lists.length ≤ es.length := by
  simp [lists, c.split]

end Element.Cursor

namespace Pass

variable {ω : Type} {h : Host ω}

/-- The lists of siblings in front of a place are edited, and the pass ends at the start marker
there. -/
structure StoppedAt (h : Host ω) {es : List Element} (c : Element.Cursor es) (s : State ω)
    (editss : List (List Edit)) (own : List Edit) (answers : List Answer) (marker : Text)
    (s₁ : State ω) (f : Failure) (t : State ω) : Prop where
  edited : EditedAll h c.lists s (editss ++ [own]) answers s₁
  start : startMarker? s₁.stash c.here = some marker
  ended : Ended h marker c.rest s₁ f t

theorem StoppedAt.length_le {es : List Element} {c : Element.Cursor es} {s s₁ t : State ω}
    {editss : List (List Edit)} {own : List Edit} {answers : List Answer} {marker : Text}
    {f : Failure} (hs : StoppedAt h c s editss own answers marker s₁ f t) :
    (editss ++ [own]).length ≤ es.length :=
  hs.edited.length_eq.trans_le c.length_lists_le

theorem StoppedAt.left {es : List Element} {c : Element.Cursor es} {s s₁ t : State ω}
    {editss : List (List Edit)} {own : List Edit} {answers : List Answer} {marker : Text}
    {f : Failure} (hs : StoppedAt h c s editss own answers marker s₁ f t) (more : List Element) :
    StoppedAt h (c.left more) s editss own answers marker s₁ f t :=
  ⟨hs.edited, hs.start, hs.ended⟩

/-- Lists in front that are edited to their ends. -/
theorem StoppedAt.right {es more : List Element} {c : Element.Cursor es} {s s₀ s₁ t : State ω}
    {editss editss' : List (List Edit)} {own : List Edit} {as bs : List Answer} {marker : Text}
    {f : Failure} (he : EditedAll h (more.map Element.children) s editss as s₀)
    (hs : StoppedAt h c s₀ editss' own bs marker s₁ f t) :
    StoppedAt h (c.right more) s (editss ++ editss') own (as ++ bs) marker s₁ f t where
  edited := by
    rw [Element.Cursor.lists_right, List.append_assoc]
    exact he.append hs.edited
  start := hs.start
  ended := hs.ended

/-- A list of siblings that the pass stops in is the first list of its tree. -/
theorem StoppedIn.stoppedAt {e e' : Element} {done rest : List Element} {s s₁ t : State ω}
    {own : List Edit} {answers : List Answer} {marker : Text} {f : Failure}
    (hs : StoppedIn h e.children s own done e' rest answers marker s₁ f t)
    (behind : List Element) :
    StoppedAt h (⟨[], e, behind, done, e', rest, rfl, hs.split⟩ : Element.Cursor (e :: behind)) s []
      own answers marker s₁ f t :=
  ⟨.singleton hs.edited, hs.start, hs.ended⟩

mutual

/-- **A pass that a failure ends stops at one start marker of the tree**, and the tree that it
leaves is the tree after the edits of the lists in front. -/
theorem element_stoppedAt (h : Host ω) : ∀ (e : Element) (s : State ω) {f : Failure},
    (element h e s).failure = some f → ∃ (c : Element.Cursor e.within) (editss : List (List Edit))
      (own : List Edit) (answers : List Answer) (marker : Text) (s₁ : State ω),
      StoppedAt h c s editss own answers marker s₁ f (element h e s).state ∧
        (element h e s).made = e.revise (editss ++ [own])
  | ⟨tag, attributes, text, literal, es, tail⟩, s, f, hf => by
    cases hscan : (scan h es s).failure with
    | some f' =>
      simp only [element, hscan] at hf ⊢
      obtain rfl := Option.some.inj hf
      obtain ⟨done, e, rest, answers, marker, s₁, hstop⟩ := stoppedIn_of_scan h es s hscan
      refine ⟨_, [], _, answers, marker, s₁,
        hstop.stoppedAt (e := ⟨tag, attributes, text, literal, es, tail⟩) (Element.withinAll es), ?_⟩
      simp [Element.revise]
    | none =>
      simp only [element, hscan] at hf ⊢
      obtain ⟨as, hedited, -⟩ := edited_of_scan h es s hscan
      obtain ⟨c, editss, own, bs, marker, s₁, hstop, hmade⟩ := siblings_stoppedAt h es _ hf
      refine ⟨c.right [⟨tag, attributes, text, literal, es, tail⟩], _, own, as ++ bs, marker, s₁,
        hstop.right (.singleton hedited), ?_⟩
      simp [Element.revise, hmade]

/-- The same for several elements. -/
theorem siblings_stoppedAt (h : Host ω) : ∀ (es : List Element) (s : State ω) {f : Failure},
    (siblings h es s).failure = some f → ∃ (c : Element.Cursor (Element.withinAll es))
      (editss : List (List Edit)) (own : List Edit) (answers : List Answer) (marker : Text)
      (s₁ : State ω), StoppedAt h c s editss own answers marker s₁ f (siblings h es s).state ∧
        (siblings h es s).made = Element.reviseAll (editss ++ [own]) es
  | [], _, _, hf => by cases hf
  | e :: es, s, f, hf => by
    cases hfirst : (element h e s).failure with
    | some f' =>
      simp only [siblings, hfirst] at hf ⊢
      obtain rfl := Option.some.inj hf
      obtain ⟨c, editss, own, answers, marker, s₁, hstop, hmade⟩ := element_stoppedAt h e s hfirst
      refine ⟨c.left _, editss, own, answers, marker, s₁, hstop.left _, ?_⟩
      rw [hmade, Element.reviseAll_cons_of_le hstop.length_le]
    | none =>
      simp only [siblings, hfirst] at hf ⊢
      -- the edits of the first element are as many as its lists, so that those of the next follow
      obtain ⟨as, hw, -⟩ := element_worked h e s hfirst
      obtain ⟨editss, hedited, hmade⟩ := hw.editedAll
      obtain ⟨c, editss', own, bs, marker, s₁, hstop, hmade'⟩ := siblings_stoppedAt h es _ hf
      refine ⟨c.right _, editss ++ editss', own, as ++ bs, marker, s₁, hstop.right hedited, ?_⟩
      have hlen : editss.length = e.within.length := by
        rw [hedited.length_eq, List.length_map]
      rw [hmade, hmade', List.append_assoc, Element.reviseAll_cons hlen]

end

/-! ### What a pass leaves -/

/-- The fault at a start marker, in front of the elements `rest`: the failure, the call that the
renderer got for the marker, and the answer that has no place in the tree. -/
inductive Fault (s : Stash) (marker : Text) (rest : List Element) :
    Failure → List Call → List Answer → Prop where
  /-- An attribute is missing, unterminated or empty: the renderer is not called. -/
  | unreadable {name : Text} {fault : AttributeFault}
    (hattributes : Marker.attributes marker = .error (.marker name marker fault)) :
    Fault s marker rest (.marker name marker fault) [] []
  /-- The renderer fails. -/
  | unrendered {eqn : Equation} {f : Failure} (hattributes : Marker.attributes marker = .ok eqn) :
    Fault s marker rest f [⟨eqn, .error f⟩] []
  /-- The renderer answers, but neither of the next two elements is an end marker. -/
  | unclosed {a : Answer} (hattributes : Marker.attributes marker = .ok a.equation)
    (hend : ∀ e ∈ rest.take 2, isEndMarker s e = false) :
    Fault s marker rest (.block marker) [a.call] [a]

/-- The logger refuses a message about a start marker, before the renderer is called for it or after
it has answered. -/
inductive Silenced (h : Host ω) (marker : Text) (f : Failure) : List Call → List Answer → Prop where
  | before (hrefused : h.Refuses f) : Silenced h marker f [] []
  | behind {a : Answer} (hattributes : Marker.attributes marker = .ok a.equation)
    (hrefused : h.Refuses f) : Silenced h marker f [a.call] [a]

theorem Silenced.refuses {marker : Text} {f : Failure} {last : List Call} {orphan : List Answer}
    (hs : Silenced h marker f last orphan) : h.Refuses f := by
  cases hs with
  | before hrefused => exact hrefused
  | behind _ hrefused => exact hrefused

/-- **What a pass has done when it ends at a place of the tree.** All lists of siblings in front of
the place have their images; the start marker there is the reason of the failure `f`. -/
structure Stopped (h : Host ω) {es : List Element} (c : Element.Cursor es) (s : Stash)
    (editss : List (List Edit)) (own : List Edit) (answers : List Answer) (marker : Text)
    (f : Failure) (last : List Call) (orphan : List Answer) : Prop where
  /-- The pairs of the elements before the parent, and those of its children before the place. -/
  filled : FilledAll s s.entries.length c.lists (editss ++ [own]) answers
  /-- From the place on, the children of the parent are the original ones. -/
  kept : Edit.apply own c.parent.children = Edit.apply own c.done ++ c.here :: c.rest
  start : startMarker? s c.here = some marker
  reason : Fault s marker c.rest f last orphan ∨ Silenced h marker f last orphan
  /-- If the logger takes every message, there is a fault. -/
  fault : h.NeverRefuses → Fault s marker c.rest f last orphan

/-- The end of a pass, as the record of the calls and the stash show it. -/
theorem Ended.reason {marker : Text} {rest : List Element} {s t : State (ω × List Call)}
    {f : Failure} (he : Ended h.traced marker rest s f t) {s₀ : Stash}
    (hs : s₀.Extends s.stash) (hcovers : ∀ e ∈ rest, s₀.Covers e) :
    ∃ last orphan, (Fault s₀ marker rest f last orphan ∨ Silenced h marker f last orphan) ∧
      t.outside.2 = s.outside.2 ++ last ∧
      t.stash.entries = s.stash.entries ++ orphan.map Answer.entry := by
  have hnone : ∀ {l : List Call} {es : List Stash.Entry}, l = s.outside.2 → es = s.stash.entries →
      l = s.outside.2 ++ [] ∧ es = s.stash.entries ++ ([] : List Answer).map Answer.entry := by
    rintro l es rfl rfl
    simp
  cases he with
  | unreadable hattributes hstash hlogged =>
    obtain ⟨name, fault, rfl⟩ := Marker.attributes_eq_error f hattributes
    exact ⟨[], [], Or.inl (.unreadable hattributes),
      hnone (Host.calls_of_logged hlogged) (by rw [hstash])⟩
  | @unrendered eqn w hattributes hlogged hrender hstash =>
    refine ⟨[⟨eqn, .error f⟩], [], Or.inl (.unrendered hattributes), ?_, ?_⟩
    · rw [Host.calls_of_render hrender, Host.calls_of_logged hlogged]
    · rw [hstash, List.map_nil, List.append_nil]
  | @unclosed a s₁ hrendered hend hf hstash hlogged =>
    subst hf
    have hran : Ran h.traced s [a] t := .step hrendered (.done hstash hlogged)
    refine ⟨[a.call], [a], Or.inl (.unclosed hrendered.attributes fun e he => ?_), hran.calls,
      hran.entries⟩
    have hs₁ : s₀.Extends s₁.stash := hs.trans hrendered.extends
    rw [← hend e he, isEndMarker_eq_of_extends hs₁ (hcovers e (List.mem_of_mem_take he))]
  | refused hrefused hstash hlogged =>
    exact ⟨[], [], Or.inr (.before hrefused.of_traced),
      hnone (Host.calls_of_logged hlogged) (by rw [hstash])⟩
  | @refusedBehind a s₁ hrendered hrefused hstash hlogged =>
    have hran : Ran h.traced s [a] t := .step hrendered (.done hstash hlogged)
    exact ⟨[a.call], [a], Or.inr (.behind hrendered.attributes hrefused.of_traced), hran.calls,
      hran.entries⟩

/-- What stands in the lists in front of a place, and behind it. -/
theorem covers_of_cursor {s : Stash} {es : List Element} (c : Element.Cursor es)
    (hcovers : ∀ e ∈ es, ∀ x ∈ e.children, s.Covers x) :
    (∀ l ∈ c.lists, ∀ x ∈ l, s.Covers x) ∧ s.Covers c.here ∧ ∀ x ∈ c.rest, s.Covers x := by
  have hparent : ∀ x ∈ c.done ++ c.here :: c.rest, s.Covers x := fun x hx =>
    hcovers c.parent (by simp [c.split]) x (c.children ▸ hx)
  refine ⟨fun l hl x hx => ?_, hparent _ (by simp), fun x hx => hparent x (by simp [hx])⟩
  rcases List.mem_append.1 hl with hl | hl
  · obtain ⟨e, he, rfl⟩ := List.mem_map.1 hl
    exact hcovers e (by simp [c.split, he]) x hx
  · obtain rfl := List.mem_singleton.1 hl
    exact hparent x (List.mem_append_left _ hx)

theorem FilledAll.apply_append {s : Stash} {n : ℕ} {ess : List (List Element)}
    {editss : List (List Edit)} {es : List Element} {own : List Edit} {answers : List Answer}
    (hf : FilledAll s n (ess ++ [es]) (editss ++ [own]) answers)
    (hlen : editss.length = ess.length) (rest : List Element) :
    Edit.apply own (es ++ rest) = Edit.apply own es ++ rest := by
  induction ess generalizing n editss answers with
  | nil =>
    obtain rfl := List.length_eq_zero_iff.1 hlen
    cases hf with
    | cons hfirst _ => exact hfirst.apply_append rest
  | cons _ ess ih =>
    cases editss with
    | nil => cases hlen
    | cons _ editss =>
      cases hf with
      | cons _ hrest => exact ih hrest (Nat.succ.inj hlen)

/-- A traced pass over a tree that the stash covers, seen in the stash in front of the pass. -/
theorem StoppedAt.stopped {root : Element} {c : Element.Cursor root.within}
    {s s₁ t : State (ω × List Call)} {editss : List (List Edit)} {own : List Edit}
    {answers : List Answer} {marker : Text} {f : Failure}
    (hs : StoppedAt h.traced c s editss own answers marker s₁ f t)
    (hcovers : ∀ x ∈ root.within, s.stash.Covers x) :
    ∃ last orphan, Stopped h c s.stash editss own answers marker f last orphan ∧
      t.stash.entries = s.stash.entries ++ (answers ++ orphan).map Answer.entry ∧
      t.outside.2 = s.outside.2 ++ (answers.map Answer.call ++ last) := by
  have hchildren : ∀ e ∈ root.within, ∀ x ∈ e.children, s.stash.Covers x := fun e he x hx =>
    hcovers x (Element.mem_within_of_mem_children he hx)
  obtain ⟨hlists, hhere, hrest⟩ := covers_of_cursor c hchildren
  have hran := hs.edited.ran
  obtain ⟨last, orphan, hreason, hcalls, hentries⟩ := hs.ended.reason hran.extends hrest
  have hfilled := hs.edited.filledAll (Extends.refl _) hlists
  have hlen : editss.length = (c.before.map Element.children).length := by
    have := hs.edited.length_eq
    simpa [Element.Cursor.lists] using this
  refine ⟨last, orphan, ⟨hfilled, ?_, ?_, hreason, ?_⟩, ?_, ?_⟩
  · rw [c.children]
    exact hfilled.apply_append hlen _
  · rw [← hs.start, startMarker?_eq_of_extends hran.extends hhere]
  · exact fun hq => hreason.resolve_right fun hsilenced => hq.not_refuses f hsilenced.refuses
  · rw [hentries, hran.entries, List.map_append, List.append_assoc]
  · rw [hcalls, hran.calls, List.append_assoc]

/-- A failure in the tree is that of the run, beyond the generator. -/
theorem run_of_failure {root : Element} {s : State ω} {cause : Failure}
    (hroot : (element h root s).failure = some cause) :
    run h root s = { element h root s with failure := some (cause.beyond .generator) } := by
  simp only [run, hroot]

/-- A run fails in the tree, or the logger refuses the report at its end. -/
theorem run_eq_some {root : Element} {s : State ω} {f : Failure}
    (hf : (run h root s).failure = some f) :
    (∃ cause : Failure, (element h root s).failure = some cause ∧ f = cause.beyond .generator ∧
        (run h root s).made = (element h root s).made ∧
        (run h root s).state = (element h root s).state) ∨
      (element h root s).failure = none ∧ (run h root s).made = (element h root s).made ∧
        (run h root s).state.stash = (element h root s).state.stash ∧
        h.Logged (element h root s).state.outside (run h root s).state.outside ∧ h.Refuses f := by
  cases hroot : (element h root s).failure with
  | some cause =>
    rw [run_of_failure hroot] at hf ⊢
    exact Or.inl ⟨cause, rfl, (Option.some.inj hf).symm, rfl, rfl⟩
  | none =>
    rcases hreport : report h (element h root s).count (element h root s).state with ⟨f' | _, s'⟩
    · have hrun : run h root s = { element h root s with failure := some f', state := s' } := by
        simp only [run, hroot, hreport]
      rw [hrun] at hf ⊢
      obtain rfl := Option.some.inj hf
      unfold report at hreport
      split at hreport
      · cases hreport
      · obtain ⟨hstash, hlogged⟩ := note_eq hreport
        exact Or.inr ⟨rfl, rfl, hstash, hlogged, refuses_of_note hreport⟩
    · simp [run, hroot, hreport] at hf

/-- A tree with a pair, a pair in a quotation, and in another quotation a pair in front of a start
marker whose end marker comes too late. -/
def brokenSample : Element :=
  Element.node "div" [Stash.image 0, Stash.image 1,
    Element.node "blockquote" [Stash.image 2, Stash.image 0, Stash.image 1],
    Element.node "blockquote" [Stash.image 0, Stash.image 1, Stash.image 2,
      Element.leaf "p" "x".toList, Element.leaf "p" "y".toList, Stash.image 1]]

/-- A host whose renderer has no answers left, and signals that. -/
def spent : Host Unit where
  render _ := Action.fail (.foreign .exhausted "no answers left".toList)
  log _ _ := Action.result ()

end Pass

end MathPage
