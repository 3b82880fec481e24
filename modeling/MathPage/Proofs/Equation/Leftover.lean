import MathPage.Proofs.Document.Texts
import MathPage.Proofs.Equation.Abreast
import MathPage.Proofs.Equation.Record
import MathPage.Proofs.Equation.Tree

/-!
# Pieces that another text has left behind

* `Pass.State.behind` – a state whose stash holds further pieces in front of its own;
* `Pass.run_leftover` – a pass over a raised tree, behind the pieces that another text has left, is
  the pass over the tree.

The two passes are abreast: the first begins with nothing that the second does not have, and the
second begins with the pieces of the other text. A raised element stands for the same behind them,
and an image that is numbered from the beginning of the one is the raised image of the other.
-/

namespace MathPage

variable {ω : Type}

/-! ### Raised edits -/

/-- Edits that are numbered from `d` on are the raised edits that are numbered from the beginning. -/
theorem Edit.Twin.eq_map_raise {d k : ℕ} {edit edit' : Edit} (h : Edit.Twin 0 d k edit edit') :
    edit' = edit.map (Element.raise d) := by
  cases h with
  | keep => rfl
  | insert | replace => simp only [Edit.map, Element.raise_image, Nat.zero_add, Nat.add_comm d]

theorem Edit.eq_map_raise_of_twins {d k : ℕ} {edits edits' : List Edit}
    (h : List.Forall₂ (Edit.Twin 0 d k) edits edits') :
    edits' = edits.map (Edit.map (Element.raise d)) := by
  induction h with
  | nil => rfl
  | cons hedit _ ih => rw [List.map_cons, hedit.eq_map_raise, ih]

theorem Host.twin_refl (h : Host ω) : Host.Twin Eq h h where
  render e s t hst := by rw [hst]; exact ⟨rfl, rfl⟩
  log severity t s s' hs := by rw [hs]; exact ⟨rfl, rfl⟩

namespace Pass

variable {h : Host ω} {extra : List Stash.Entry}

/-- The state with further pieces in front of those of its stash. -/
def State.behind (extra : List Stash.Entry) (s : State ω) : State ω :=
  { s with stash := ⟨extra ++ s.stash.entries⟩ }

theorem readAlike_raise (extra : List Stash.Entry) (e : Element) :
    ReadAlike [] extra e (e.raise extra.length) := fun more => Stash.value?_raise extra more e

theorem scan_leftover (h : Host ω) (extra : List Stash.Entry) (es : List Element) (s : State ω) :
    scan h (es.map (Element.raise extra.length)) (s.behind extra) =
      { made := (scan h es s).made.map (Edit.map (Element.raise extra.length))
        count := (scan h es s).count
        failure := (scan h es s).failure
        state := (scan h es s).state.behind extra } := by
  have hes : List.Forall₂ (ReadAlike [] extra) es (es.map (Element.raise extra.length)) :=
    List.forall₂_map_right_iff.2 (List.forall₂_same.2 fun e _ => readAlike_raise extra e)
  have hs : Abreast Eq [] extra s.stash.entries s (s.behind extra) := ⟨rfl, rfl, rfl⟩
  obtain ⟨gained, hscanned⟩ := scan_abreast h.twin_refl hes hs
  have hentries : (scan h es s).state.stash.entries = s.stash.entries ++ gained :=
    hscanned.state.first
  calc scan h (es.map (Element.raise extra.length)) (s.behind extra)
      = ⟨_, _, _, ⟨⟨(scan h (es.map (Element.raise extra.length))
          (s.behind extra)).state.stash.entries⟩, _⟩⟩ := rfl
    _ = _ := by
      rw [Edit.eq_map_raise_of_twins hscanned.edits, hscanned.count, hscanned.failure,
        hscanned.state.second, ← hscanned.state.outside, ← hentries]
      rfl

/-! ### Trees -/

mutual

theorem element_leftover (h : Host ω) (extra : List Stash.Entry) : ∀ (e : Element) (s : State ω),
    element h (e.raise extra.length) (s.behind extra) =
      { made := (element h e s).made.raise extra.length
        count := (element h e s).count
        failure := (element h e s).failure
        state := (element h e s).state.behind extra }
  | ⟨tag, attributes, text, literal, es, tail⟩, s => by
    have hscan := scan_leftover h extra es s
    have hsiblings := siblings_leftover h extra es (scan h es s).state
    have hraise : ∀ es : List Element, (⟨tag, attributes, text, literal, es, tail⟩ : Element).raise
        extra.length = ⟨tag, attributes.map fun (n, v) => (n, v.map (Stash.raise extra.length)),
          text.map (Stash.raise extra.length), literal, es.map (Element.raise extra.length),
          tail.map (Stash.raise extra.length)⟩ := fun es => Element.mapTexts_eq _ _
    simp only [hraise, element, hscan]
    cases hfailure : (scan h es s).failure with
    | some f => simp only [hraise, Edit.apply_map]
    | none => simp only [hsiblings, hraise, Edit.apply_map]

theorem siblings_leftover (h : Host ω) (extra : List Stash.Entry) :
    ∀ (es : List Element) (s : State ω),
    siblings h (es.map (Element.raise extra.length)) (s.behind extra) =
      { made := (siblings h es s).made.map (Element.raise extra.length)
        count := (siblings h es s).count
        failure := (siblings h es s).failure
        state := (siblings h es s).state.behind extra }
  | [], s => rfl
  | e :: es, s => by
    simp only [List.map_cons, siblings, element_leftover h extra e s]
    cases hfirst : (element h e s).failure with
    | some f => rfl
    | none => simp only [siblings_leftover h extra es, List.map_cons]

end

/-! ### Passes -/

theorem report_leftover (h : Host ω) (extra : List Stash.Entry) (n : ℕ) (s : State ω) :
    report h n (s.behind extra) = ((report h n s).1, (report h n s).2.behind extra) := by
  unfold report
  split <;> rfl

/-- **Pieces that are left over do not matter.** A pass behind any pieces in front of its own, over
the tree whose placeholders are raised by their number, ends as the pass over the tree does: with the
same count or the same failure, the raised tree, and the same pieces behind the others. The outside
is left in the same state, and the renderer is called in the same way. -/
theorem run_leftover (h : Host ω) (extra : List Stash.Entry) (root : Element) (s : State ω) :
    run h (root.raise extra.length) (s.behind extra) =
      { made := (run h root s).made.raise extra.length
        count := (run h root s).count
        failure := (run h root s).failure
        state := (run h root s).state.behind extra } ∧
    calls h (root.raise extra.length) (s.behind extra) = calls h root s := by
  have hrun : ∀ {ω : Type} (h : Host ω) (s : State ω),
      run h (root.raise extra.length) (s.behind extra) =
        { made := (run h root s).made.raise extra.length
          count := (run h root s).count
          failure := (run h root s).failure
          state := (run h root s).state.behind extra } := fun h s => by
    simp only [run, element_leftover h extra root s]
    cases hfailure : (element h root s).failure with
    | some f => rfl
    | none =>
      simp only [report_leftover]
      rcases report h (element h root s).count (element h root s).state with ⟨_ | _, s'⟩ <;> rfl
  refine ⟨hrun h s, ?_⟩
  -- the record of the calls is a part of the outside
  exact congrArg (fun p => p.state.outside.2) (hrun h.traced ⟨s.stash, s.outside, []⟩)

end Pass

end MathPage
