import MathPage.Proofs.Equation.NormalForm

/-!
# What a pass comes to

If the renderer answers by the equation alone and the logger takes every message, the tree and the
stash determine what a pass comes to.

* `Pass.Outcome` – the calls of the renderer and the failure that ended them, if any;
* `Outcome.list`, `Outcome.tree` – what a list of siblings and a tree come to, by recursion on them;
* `Host.recorder` – a host of which nothing is left but the renderer and the record of its calls;
* `Pass.outcome` – what a run comes to.

Outcomes follow one another, and none follows a failure (`Outcome.andThen`). The outcome of a run is
that of its tree (`outcome_eq_tree`).
-/

namespace MathPage

open Stash

/-- The piece that a call leaves in the stash, if it was answered. -/
def Call.entry? (c : Call) : Option Stash.Entry :=
  match c.outcome with
  | .ok html => some (Answer.entry ⟨c.equation, html⟩)
  | .error _ => none

/-! ### The host that only keeps the record -/

/-- A host that answers by the equation alone and keeps nothing but the record of its calls. -/
def Host.recorder (f : Equation → Except Failure (Option Text)) : Host (List Call) where
  render eqn := fun calls => (f eqn, calls ++ [⟨eqn, f eqn⟩])
  log _ _ := Action.result ()

/-- A traced host whose renderer answers by the equation alone does what the recorder does. -/
theorem Host.traced_over_recorder {ω : Type} {h : Host ω} (hq : h.NeverRefuses)
    {f : Equation → Except Failure (Option Text)} (hf : ∀ eqn w, (h.render eqn w).1 = f eqn) :
    Host.Over Prod.snd h.traced (Host.recorder f) := by
  constructor
  · intro eqn w
    show _ = ((h.render eqn w.1).1, w.2 ++ [⟨eqn, (h.render eqn w.1).1⟩])
    rw [hf eqn w.1]
    rfl
  · intro severity t w
    show _ = ((h.log severity t w.1).1, w.2)
    rw [hq severity t w.1]
    rfl

namespace Pass

/-- The calls of the renderer, and the failure that ended them. -/
structure Outcome where
  calls : List Call
  failure : Option Failure

namespace Outcome

/-! ### Outcomes one after the other -/

/-- No call and no failure. -/
def nothing : Outcome := ⟨[], none⟩

/-- A failure without a call. -/
def failed (f : Failure) : Outcome := ⟨[], some f⟩

/-- What comes after an outcome, unless that is a failure. -/
def andThen (a b : Outcome) : Outcome :=
  match a.failure with
  | none => ⟨a.calls ++ b.calls, b.failure⟩
  | some _ => a

variable {a b c : Outcome}

theorem andThen_of_none (ha : a.failure = none) (b : Outcome) :
    a.andThen b = ⟨a.calls ++ b.calls, b.failure⟩ := by
  rw [andThen, ha]

theorem andThen_of_some {f : Failure} (ha : a.failure = some f) (b : Outcome) :
    a.andThen b = a := by
  rw [andThen, ha]

@[simp] theorem nothing_andThen (a : Outcome) : nothing.andThen a = a := rfl

theorem andThen_assoc (a b c : Outcome) : (a.andThen b).andThen c = a.andThen (b.andThen c) := by
  cases ha : a.failure with
  | some f => simp only [andThen_of_some ha]
  | none =>
    rw [andThen_of_none ha, andThen_of_none ha]
    cases hb : b.failure with
    | some f =>
      rw [andThen_of_some hb, andThen_of_some (f := f) rfl]
      simp only [hb]
    | none =>
      rw [andThen_of_none hb, andThen_of_none rfl, List.append_assoc]

/-! ### The outcome of a tree -/

variable (f : Equation → Except Failure (Option Text)) (s : Stash)

/-- What the renderer comes to for an equation. -/
def render (eqn : Equation) : Outcome :=
  match f eqn with
  | .ok html => ⟨[⟨eqn, .ok html⟩], none⟩
  | .error e => ⟨[⟨eqn, .error e⟩], some e⟩

/-- What a start marker comes to, apart from what is behind it. -/
def marker (t : Text) : Outcome :=
  match Marker.attributes t with
  | .ok eqn => render f eqn
  | .error e => failed e

/-- What a list of siblings comes to. -/
def list : List Element → Outcome
  | [] => nothing
  | e :: rest =>
    match startMarker? s e with
    | none => list rest
    | some t =>
      match rest with
      | [] => (marker f t).andThen (failed (.block t))
      | next :: rest₁ =>
        if isEndMarker s next then (marker f t).andThen (list rest₁)
        else
          match rest₁ with
          | [] => (marker f t).andThen (failed (.block t))
          | third :: rest₂ =>
            if isEndMarker s third then (marker f t).andThen (list rest₂)
            else (marker f t).andThen (failed (.block t))

mutual

/-- What the children of an element and everything below it come to. -/
def tree : Element → Outcome
  | ⟨_, _, _, _, children, _⟩ => (list f s children).andThen (trees children)

/-- What everything below several elements comes to. -/
def trees : List Element → Outcome
  | [] => nothing
  | e :: es => (tree e).andThen (trees es)

end

/-- An outcome as it is seen beyond a generator. -/
def beyond (o : Outcome) : Outcome := { o with failure := o.failure.map (.beyond .generator) }

theorem andThen_beyond (a b : Outcome) : (a.andThen b).beyond = a.beyond.andThen b.beyond := by
  cases ha : a.failure with
  | some e => rw [andThen_of_some ha, andThen_of_some (f := e.beyond .generator) (by simp [beyond, ha])]
  | none =>
    rw [andThen_of_none ha, andThen_of_none (by simp [beyond, ha])]
    rfl

theorem tree_eq (e : Element) :
    tree f s e = (list f s e.children).andThen (trees f s e.children) := by
  cases e; rw [tree]

theorem trees_append (es es' : List Element) :
    trees f s (es ++ es') = (trees f s es).andThen (trees f s es') := by
  induction es with
  | nil => rw [List.nil_append, trees, nothing_andThen]
  | cons e es ih => rw [List.cons_append, trees, trees, ih, andThen_assoc]

end Outcome

/-! ### Recorded passes -/

/-- The state after further calls. -/
def State.after (t : State (List Call)) (calls : List Call) : State (List Call) :=
  ⟨⟨t.stash.entries ++ calls.filterMap Call.entry?⟩, t.outside ++ calls⟩

@[simp] theorem State.after_nil (t : State (List Call)) : t.after [] = t := by
  simp [State.after]

@[simp] theorem State.after_after (t : State (List Call)) (calls calls' : List Call) :
    (t.after calls).after calls' = t.after (calls ++ calls') := by
  simp [State.after]

theorem State.extends_after (t : State (List Call)) (calls : List Call) :
    t.stash.Extends (t.after calls).stash := List.prefix_append _ _

variable {α : Type} {f : Equation → Except Failure (Option Text)} {s : Stash}
  {t : State (List Call)} {o : Outcome}

/-- A recorded pass that began in the state `t` comes to the outcome. -/
structure Meets (o : Outcome) (t : State (List Call)) (p : Progress (List Call) α) : Prop where
  failure : p.failure = o.failure
  state : p.state = t.after o.calls

theorem opened_recorder (f : Equation → Except Failure (Option Text)) (marker : Text)
    (t : State (List Call)) : opened (Host.recorder f) marker t =
      (match (Outcome.marker f marker).failure with
        | none => .ok (Stash.image t.stash.entries.length)
        | some e => .error e, t.after (Outcome.marker f marker).calls) := by
  have hnote : note (Host.recorder f) "Found an equation...".toList t = (.ok (), t) := rfl
  rw [opened, Action.bind_of_ok hnote, image, Outcome.marker]
  cases ha : Marker.attributes marker with
  | error e =>
    have hread : Marker.read (Host.recorder f) marker t.outside = (.error e, t.outside) := by
      simp only [Marker.read, ha]
      rfl
    rw [Action.bind_of_error (outside_of_eq hread)]
    simp [Outcome.failed]
  | ok eqn =>
    have hread : Marker.read (Host.recorder f) marker t.outside = (.ok eqn, t.outside) := by
      simp only [Marker.read, ha]
      rfl
    have hrender : (Host.recorder f).render eqn t.outside =
        (f eqn, t.outside ++ [⟨eqn, f eqn⟩]) := rfl
    rw [Action.bind_of_ok (outside_of_eq hread)]
    simp only [Outcome.render]
    cases hf : f eqn with
    | error e =>
      rw [hf] at hrender
      rw [Action.bind_of_error (outside_of_eq hrender)]
      simp [State.after, List.filterMap_cons, Call.entry?]
    | ok html =>
      rw [hf] at hrender
      rw [Action.bind_of_ok (outside_of_eq hrender), keepHtml_eq ⟨eqn, html⟩]
      rfl

/-- What comes after an outcome that is no failure. -/
theorem Meets.after {a b : Outcome} {p : Progress (List Call) α} (ha : a.failure = none)
    (hp : Meets b (t.after a.calls) p) : Meets (a.andThen b) t p where
  failure := by rw [Outcome.andThen_of_none ha, hp.failure]
  state := by rw [Outcome.andThen_of_none ha, hp.state, State.after_after]

/-- A start marker and what is behind it. -/
theorem meets_of_marker {e : Element} {rest : List Element} {marker : Text}
    (hstart : startMarker? t.stash e = some marker)
    (hrest : ∀ new u, t.stash.Extends u.stash → opened (Host.recorder f) marker t = (.ok new, u) →
      Meets o u (scan (Host.recorder f) (e :: rest) t)) :
    Meets ((Outcome.marker f marker).andThen o) t (scan (Host.recorder f) (e :: rest) t) := by
  have hopened := opened_recorder f marker t
  cases hm : (Outcome.marker f marker).failure with
  | none =>
    rw [hm] at hopened
    exact .after hm (hrest _ _ (t.extends_after _) hopened)
  | some failure =>
    rw [hm] at hopened
    have hscan : scan (Host.recorder f) (e :: rest) t =
        .failed [] failure (t.after (Outcome.marker f marker).calls) := by
      simp only [scan, hstart, hopened]
    rw [hscan, Outcome.andThen_of_some hm]
    exact ⟨hm.symm, rfl⟩

/-- **A list of siblings comes to its outcome.** -/
theorem scan_meets (f : Equation → Except Failure (Option Text)) {es : List Element}
    (hcovers : ∀ e ∈ es, s.Covers e) (ht : s.Extends t.stash) :
    Meets (Outcome.list f s es) t (scan (Host.recorder f) es t) := by
  -- the recorder takes every message
  have hnote : ∀ (u : State (List Call)) (text : Text),
      note (Host.recorder f) text u = (.ok (), u) := fun _ _ => rfl
  have hunclosed : ∀ (u : State (List Call)) (marker : Text),
      unclosed (Host.recorder f) marker u = (.error (.block marker), u) := fun _ _ => rfl
  have hfailed : ∀ (u : State (List Call)) (marker : Text),
      Meets (Outcome.failed (.block marker)) u
        (Progress.failed ([] : List Edit) (.block marker) u) := fun u marker =>
    ⟨rfl, (State.after_nil u).symm⟩
  fun_induction Outcome.list f s es generalizing t with
  | case1 => exact ⟨rfl, (State.after_nil t).symm⟩
  | case2 e rest hplain ih =>
    have hplain' := (startMarker?_eq_of_extends ht (hcovers e (by simp))).trans hplain
    have hrest := ih (fun x hx => hcovers x (by simp [hx])) ht
    simp only [scan, hplain']
    exact ⟨hrest.failure, hrest.state⟩
  | case3 e marker hstart =>
    have hstart' := (startMarker?_eq_of_extends ht (hcovers e (by simp))).trans hstart
    refine meets_of_marker hstart' fun new u hu hopened => ?_
    simp only [scan, hstart', hopened, hunclosed]
    exact hfailed _ marker
  | case4 e marker hstart stop rest hstop ih =>
    have hstart' := (startMarker?_eq_of_extends ht (hcovers e (by simp))).trans hstart
    refine meets_of_marker hstart' fun new u hu hopened => ?_
    have hstop' := (isEndMarker_eq_of_extends (ht.trans hu) (hcovers stop (by simp))).trans hstop
    have hrest := ih (fun x hx => hcovers x (by simp [hx])) (ht.trans hu)
    simp only [scan, hstart', hopened, hstop', if_true, hnote]
    exact ⟨hrest.failure, hrest.state⟩
  | case5 e marker hstart next hnext =>
    have hstart' := (startMarker?_eq_of_extends ht (hcovers e (by simp))).trans hstart
    refine meets_of_marker hstart' fun new u hu hopened => ?_
    have hnext' := (isEndMarker_eq_of_extends (ht.trans hu) (hcovers next (by simp))).trans
      (Bool.eq_false_iff.2 hnext)
    simp only [scan, hstart', hopened, hnext', Bool.false_eq_true, if_false, hunclosed]
    exact hfailed _ marker
  | case6 e marker hstart old hold stop rest hstop ih =>
    have hstart' := (startMarker?_eq_of_extends ht (hcovers e (by simp))).trans hstart
    refine meets_of_marker hstart' fun new u hu hopened => ?_
    have hold' := (isEndMarker_eq_of_extends (ht.trans hu) (hcovers old (by simp))).trans
      (Bool.eq_false_iff.2 hold)
    have hstop' := (isEndMarker_eq_of_extends (ht.trans hu) (hcovers stop (by simp))).trans hstop
    have hrest := ih (fun x hx => hcovers x (by simp [hx])) (ht.trans hu)
    simp only [scan, hstart', hopened, hold', Bool.false_eq_true, if_false, hstop', if_true, hnote]
    exact ⟨hrest.failure, hrest.state⟩
  | case7 e marker hstart next hnext third rest hthird =>
    have hstart' := (startMarker?_eq_of_extends ht (hcovers e (by simp))).trans hstart
    refine meets_of_marker hstart' fun new u hu hopened => ?_
    have hnext' := (isEndMarker_eq_of_extends (ht.trans hu) (hcovers next (by simp))).trans
      (Bool.eq_false_iff.2 hnext)
    have hthird' := (isEndMarker_eq_of_extends (ht.trans hu) (hcovers third (by simp))).trans
      (Bool.eq_false_iff.2 hthird)
    simp only [scan, hstart', hopened, hnext', hthird', Bool.false_eq_true, if_false, hunclosed]
    exact hfailed _ marker

/-- The outcome of a list of siblings is that of a scan by the recorder. -/
theorem Outcome.list_eq_scan (f : Equation → Except Failure (Option Text)) {es : List Element}
    (hcovers : ∀ e ∈ es, s.Covers e) : Outcome.list f s es =
      ⟨(scan (Host.recorder f) es ⟨s, []⟩).state.outside,
        (scan (Host.recorder f) es ⟨s, []⟩).failure⟩ := by
  have hscan : Meets _ ⟨s, []⟩ _ := scan_meets f hcovers (Extends.refl s)
  rw [hscan.state, hscan.failure]
  rfl

mutual

/-- **A tree comes to its outcome.** -/
theorem element_meets (f : Equation → Except Failure (Option Text)) :
    ∀ (e : Element) (t : State (List Call)), (∀ x ∈ Element.withinAll e.children, s.Covers x) →
      s.Extends t.stash → Meets (Outcome.tree f s e) t (element (Host.recorder f) e t)
  | ⟨tag, attributes, text, literal, es, tail⟩, t, hcovers, ht => by
    have hscan := scan_meets f (fun e he => hcovers e (Element.mem_withinAll_of_mem he)) ht
    rw [Outcome.tree]
    cases hlist : (Outcome.list f s es).failure with
    | some failure =>
      simp only [element, hscan.failure, hlist, Outcome.andThen_of_some hlist]
      exact ⟨hlist.symm, hscan.state⟩
    | none =>
      have hbelow := siblings_meets f es (t.after (Outcome.list f s es).calls) hcovers
        (ht.trans (t.extends_after _))
      refine .after hlist ?_
      simp only [element, hscan.failure, hlist, hscan.state]
      exact ⟨hbelow.failure, hbelow.state⟩

/-- The same for what is below each of several elements. -/
theorem siblings_meets (f : Equation → Except Failure (Option Text)) :
    ∀ (es : List Element) (t : State (List Call)), (∀ x ∈ Element.withinAll es, s.Covers x) →
      s.Extends t.stash → Meets (Outcome.trees f s es) t (siblings (Host.recorder f) es t)
  | [], t, _, _ => ⟨rfl, (State.after_nil t).symm⟩
  | e :: es, t, hcovers, ht => by
    rw [Element.withinAll_cons] at hcovers
    have hfirst := element_meets f e t
      (fun x hx => hcovers x (List.mem_append_left _ (by
        rw [Element.within_eq]
        exact List.mem_cons_of_mem _ hx))) ht
    rw [Outcome.trees]
    cases htree : (Outcome.tree f s e).failure with
    | some failure =>
      simp only [siblings, hfirst.failure, htree, Outcome.andThen_of_some htree]
      exact ⟨htree.symm, hfirst.state⟩
    | none =>
      have hrest := siblings_meets f es (t.after (Outcome.tree f s e).calls)
        (fun x hx => hcovers x (List.mem_append_right _ hx)) (ht.trans (t.extends_after _))
      refine .after htree ?_
      simp only [siblings, hfirst.failure, htree, hfirst.state]
      exact ⟨hrest.failure, hrest.state⟩

end

/-! ### The outcome of a run -/

variable {ω : Type}

/-- What a run comes to. -/
def outcome (h : Host ω) (root : Element) (s : State ω) : Outcome :=
  ⟨calls h root s, (run h root s).failure⟩

/-- A pass that is worked on by a generator, seen from outside. -/
def Progress.beyond {ω α : Type} (p : Progress ω α) : Progress ω α :=
  { p with failure := p.failure.map (.beyond .generator) }

/-- The recorder has nothing to report. -/
theorem run_recorder (f : Equation → Except Failure (Option Text)) (root : Element)
    (t : State (List Call)) :
    run (Host.recorder f) root t = (element (Host.recorder f) root t).beyond := by
  have hreport : ∀ (n : ℕ) (u : State (List Call)),
      report (Host.recorder f) n u = (.ok (), u) := fun n u => by
    unfold report
    split <;> rfl
  cases hroot : (element (Host.recorder f) root t).failure with
  | some failure => simp only [run, Progress.beyond, hroot, Option.map_some]
  | none => simp only [run, Progress.beyond, hroot, hreport, Option.map_none]

/-- A run seen by the recorder. -/
theorem traced_map_recorder {h : Host ω} (hq : h.NeverRefuses)
    {f : Equation → Except Failure (Option Text)} (hf : ∀ eqn w, (h.render eqn w).1 = f eqn)
    (root : Element) (s : State ω) :
    (traced h root s).map Prod.snd = (element (Host.recorder f) root ⟨s.stash, []⟩).beyond := by
  rw [← run_recorder]
  exact (run_over (Host.traced_over_recorder hq hf) root ⟨s.stash, s.outside, []⟩).symm

/-- The recorder leaves the same tree and the same stash as a run, and its outcome is that of the
run. -/
theorem run_eq_recorder {h : Host ω} (hq : h.NeverRefuses)
    {f : Equation → Except Failure (Option Text)} (hf : ∀ eqn w, (h.render eqn w).1 = f eqn)
    (root : Element) (s : State ω) {p : Progress (List Call) Element}
    (hp : element (Host.recorder f) root ⟨s.stash, []⟩ = p) :
    (run h root s).made = p.made ∧ (run h root s).state.stash = p.state.stash ∧
      outcome h root s = (⟨p.state.outside, p.failure⟩ : Outcome).beyond := by
  subst hp
  have htraced := traced_map_recorder hq hf root s
  rw [outcome, calls, run_eq_traced]
  exact ⟨congrArg Progress.made htraced, congrArg (fun p => p.state.stash) htraced,
    congrArg (fun p => Outcome.mk p.state.outside p.failure) htraced⟩

/-- **A run comes to the outcome of its tree**, as it is seen beyond the generator. -/
theorem outcome_eq_tree {h : Host ω} (hq : h.NeverRefuses)
    {f : Equation → Except Failure (Option Text)} (hf : ∀ eqn w, (h.render eqn w).1 = f eqn)
    {root : Element} {s : State ω} (hcovers : ∀ x ∈ root.within, s.stash.Covers x) :
    outcome h root s = (Outcome.tree f s.stash root).beyond := by
  rw [Element.within_eq] at hcovers
  have hmeets : Meets _ ⟨s.stash, []⟩ _ := element_meets f root ⟨s.stash, []⟩
    (fun x hx => hcovers x (List.mem_cons_of_mem _ hx)) (Extends.refl s.stash)
  rw [(run_eq_recorder hq hf root s rfl).2.2, hmeets.state, hmeets.failure]
  rfl

end Pass

end MathPage
