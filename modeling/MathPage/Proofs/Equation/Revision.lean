import MathPage.Proofs.Equation.NormalForm

/-!
# The edits of a tree in document order

A tree is a sequence of lists of siblings: the children of its elements, in document order. A pass
works on these lists one after the other, so that what it has done to a tree are the edits of a first
part of the sequence.

* `Element.revise` – a tree after the edits of its lists, in document order; the lists beyond the
  last edits stay as they are;
* `Pass.EditedAll` – several lists of siblings that are edited to their ends, one after the other;
* `Pass.Filled`, `Pass.FilledAll` – the same, told by the stash in front of the pass: every pair has
  an image between its two comments, and the images are numbered on.

A tree that is worked on to its end is the revised tree (`Worked.editedAll`).
-/

namespace MathPage

open Stash

namespace Element

/-! ### Revised trees -/

mutual

/-- A tree after edits of the children of its elements, in document order. What is behind the last
edits stays. -/
def revise : List (List Edit) → Element → Element
  | edits, ⟨tag, attributes, text, literal, children, tail⟩ =>
    ⟨tag, attributes, text, literal, Edit.apply (edits.headD []) (reviseAll edits.tail children),
      tail⟩

/-- The same for several elements. -/
def reviseAll : List (List Edit) → List Element → List Element
  | _, [] => []
  | edits, e :: es => revise edits e :: reviseAll (edits.drop e.within.length) es

end

@[simp] theorem length_within_pos (e : Element) : 0 < e.within.length := by
  rw [within_eq]
  exact Nat.succ_pos _

mutual

@[simp] theorem revise_nil : ∀ e : Element, revise [] e = e
  | ⟨tag, attributes, text, literal, children, tail⟩ => by
    simp only [revise, List.tail_nil, reviseAll_nil children, List.headD_nil, Edit.apply]

@[simp] theorem reviseAll_nil : ∀ es : List Element, reviseAll [] es = es
  | [] => rfl
  | e :: es => by rw [reviseAll, revise_nil e, List.drop_nil, reviseAll_nil es]

end

mutual

/-- Edits beyond the lists of a tree do not change it. -/
theorem revise_append : ∀ (e : Element) {as : List (List Edit)}, e.within.length ≤ as.length →
    ∀ bs, revise (as ++ bs) e = revise as e
  | ⟨tag, attributes, text, literal, children, tail⟩, as, hle, bs => by
    cases as with
    | nil => exact absurd hle (Nat.not_le.2 (length_within_pos _))
    | cons own as =>
      have hrest : (withinAll children).length ≤ as.length := by
        rw [within_eq] at hle
        exact Nat.le_of_succ_le_succ hle
      simp only [revise, List.cons_append, List.headD_cons, List.tail_cons]
      rw [reviseAll_append children hrest bs]

/-- The same for several elements. -/
theorem reviseAll_append : ∀ (es : List Element) {as : List (List Edit)},
    (withinAll es).length ≤ as.length → ∀ bs, reviseAll (as ++ bs) es = reviseAll as es
  | [], _, _, _ => rfl
  | e :: es, as, hle, bs => by
    rw [withinAll_cons, List.length_append] at hle
    have hfirst : e.within.length ≤ as.length := by omega
    have hrest : (withinAll es).length ≤ (as.drop e.within.length).length := by
      rw [List.length_drop]
      omega
    rw [reviseAll, reviseAll, revise_append e hfirst, List.drop_append_of_le_length hfirst,
      reviseAll_append es hrest]

end

/-- The edits of the first element, then those of the others. -/
theorem reviseAll_cons {e : Element} {as : List (List Edit)} (hlen : as.length = e.within.length)
    (bs : List (List Edit)) (es : List Element) :
    reviseAll (as ++ bs) (e :: es) = revise as e :: reviseAll bs es := by
  rw [reviseAll, revise_append e hlen.ge, ← hlen, List.drop_left]

/-- Edits that end in the first element leave the others as they are. -/
theorem reviseAll_cons_of_le {e : Element} {as : List (List Edit)}
    (hle : as.length ≤ e.within.length) (es : List Element) :
    reviseAll as (e :: es) = revise as e :: es := by
  rw [reviseAll, List.drop_eq_nil_of_le hle, reviseAll_nil]

end Element

namespace Pass

variable {ω : Type} {h : Host ω}

/-! ### Lists that are edited one after the other -/

/-- Several lists of siblings that are edited to their ends, one after the other. -/
inductive EditedAll (h : Host ω) :
    List (List Element) → State ω → List (List Edit) → List Answer → State ω → Prop where
  | nil (s : State ω) : EditedAll h [] s [] [] s
  | cons {es : List Element} {ess : List (List Element)} {s s₁ t : State ω} {edits : List Edit}
      {editss : List (List Edit)} {as bs : List Answer} (hfirst : Edited h es s edits as s₁)
      (hrest : EditedAll h ess s₁ editss bs t) :
      EditedAll h (es :: ess) s (edits :: editss) (as ++ bs) t

theorem EditedAll.append {ess ess' : List (List Element)} {s s₁ t : State ω}
    {editss editss' : List (List Edit)} {as bs : List Answer}
    (hfirst : EditedAll h ess s editss as s₁) (hrest : EditedAll h ess' s₁ editss' bs t) :
    EditedAll h (ess ++ ess') s (editss ++ editss') (as ++ bs) t := by
  induction hfirst with
  | nil => exact hrest
  | cons hedited _ ih =>
    rw [List.append_assoc]
    exact .cons hedited (ih hrest)

theorem EditedAll.singleton {es : List Element} {s t : State ω} {edits : List Edit}
    {answers : List Answer} (he : Edited h es s edits answers t) :
    EditedAll h [es] s [edits] answers t := by
  rw [← List.append_nil answers]
  exact .cons he (.nil t)

theorem EditedAll.length_eq {ess : List (List Element)} {s t : State ω}
    {editss : List (List Edit)} {answers : List Answer} (he : EditedAll h ess s editss answers t) :
    editss.length = ess.length := by
  induction he with
  | nil => rfl
  | cons _ _ ih => rw [List.length_cons, List.length_cons, ih]

theorem EditedAll.ran {ess : List (List Element)} {s t : State ω} {editss : List (List Edit)}
    {answers : List Answer} (he : EditedAll h ess s editss answers t) : Ran h s answers t := by
  induction he with
  | nil s => exact .refl s
  | cons hedited _ ih => exact hedited.ran.trans ih

mutual

/-- **A tree that is worked on to its end is the tree after the edits of all its lists.** -/
theorem Worked.editedAll {e made : Element} {s t : State ω} {answers : List Answer} :
    Worked h e s made answers t → ∃ editss,
      EditedAll h (e.within.map Element.children) s editss answers t ∧ made = e.revise editss
  | .mk hedited hbelow => by
    obtain ⟨editss, hall, rfl⟩ := hbelow.editedAll
    exact ⟨_, .cons hedited hall, rfl⟩

/-- The same for several elements. -/
theorem WorkedAll.editedAll {es mades : List Element} {s t : State ω} {answers : List Answer} :
    WorkedAll h es s mades answers t → ∃ editss,
      EditedAll h ((Element.withinAll es).map Element.children) s editss answers t ∧
        mades = Element.reviseAll editss es
  | .nil s => ⟨[], .nil s, rfl⟩
  | .cons hfirst hrest => by
    obtain ⟨editss, he, rfl⟩ := hfirst.editedAll
    obtain ⟨editss', hes, rfl⟩ := hrest.editedAll
    have hlen := he.length_eq
    rw [List.length_map] at hlen
    refine ⟨editss ++ editss', ?_, (Element.reviseAll_cons hlen _ _).symm⟩
    rw [Element.withinAll_cons, List.map_append]
    exact he.append hes

end

/-! ### Pairs and their images -/

/-- The edits put an image into every pair of a list of siblings, one for each of the answers: they
insert it between two comments that are neighbours and replace what stands alone between two others.
The images are numbered from a position on. -/
inductive Filled (s : Stash) : ℕ → List Element → List Edit → List Answer → Prop where
  | nil (n : ℕ) : Filled s n [] [] []
  | plain {n : ℕ} {e : Element} {rest : List Element} {edits : List Edit} {answers : List Answer}
      (hplain : startMarker? s e = none) (hrest : Filled s n rest edits answers) :
      Filled s n (e :: rest) (.keep :: edits) answers
  | insert {n : ℕ} {e stop : Element} {rest : List Element} {edits : List Edit} {a : Answer}
      {answers : List Answer} {marker : Text} (hstart : startMarker? s e = some marker)
      (hattributes : Marker.attributes marker = .ok a.equation)
      (hstop : isEndMarker s stop = true) (hrest : Filled s (n + 1) rest edits answers) :
      Filled s n (e :: stop :: rest) (.keep :: .insert (Stash.image n) :: .keep :: edits)
        (a :: answers)
  | replace {n : ℕ} {e old stop : Element} {rest : List Element} {edits : List Edit} {a : Answer}
      {answers : List Answer} {marker : Text} (hstart : startMarker? s e = some marker)
      (hattributes : Marker.attributes marker = .ok a.equation)
      (hold : isEndMarker s old = false) (hstop : isEndMarker s stop = true)
      (hrest : Filled s (n + 1) rest edits answers) :
      Filled s n (e :: old :: stop :: rest) (.keep :: .replace (Stash.image n) :: .keep :: edits)
        (a :: answers)

/-- The same for several lists of siblings, whose images are numbered on. -/
inductive FilledAll (s : Stash) :
    ℕ → List (List Element) → List (List Edit) → List Answer → Prop where
  | nil (n : ℕ) : FilledAll s n [] [] []
  | cons {n : ℕ} {es : List Element} {ess : List (List Element)} {edits : List Edit}
      {editss : List (List Edit)} {as bs : List Answer} (hfirst : Filled s n es edits as)
      (hrest : FilledAll s (n + as.length) ess editss bs) :
      FilledAll s n (es :: ess) (edits :: editss) (as ++ bs)

theorem Filled.reach {s : Stash} {n : ℕ} {es : List Element} {edits : List Edit}
    {answers : List Answer} (hf : Filled s n es edits answers) : Edit.reach edits = es.length := by
  induction hf with
  | nil => rfl
  | plain _ _ ih | insert _ _ _ _ ih | replace _ _ _ _ _ ih =>
    simp only [Edit.reach, ih, List.length_cons]

/-- The edits of a first part of a list leave the rest as it is. -/
theorem Filled.apply_append {s : Stash} {n : ℕ} {es : List Element} {edits : List Edit}
    {answers : List Answer} (hf : Filled s n es edits answers) (rest : List Element) :
    Edit.apply edits (es ++ rest) = Edit.apply edits es ++ rest := by
  have happly := Edit.apply_append hf.reach [] rest
  rwa [List.append_nil] at happly

/-- An edited list is filled. Its markers can be judged in an earlier stash that covers them. -/
theorem Edited.filled {es : List Element} {s t : State ω} {edits : List Edit}
    {answers : List Answer} (he : Edited h es s edits answers t) {s₀ : Stash}
    (hs : s₀.Extends s.stash) (hcovers : ∀ e ∈ es, s₀.Covers e) :
    Filled s₀ s.stash.entries.length es edits answers := by
  induction he with
  | nil => exact .nil _
  | @plain e rest s t edits answers hplain _ ih =>
    refine .plain ?_ (ih hs fun x hx => hcovers x (by simp [hx]))
    rw [← hplain, startMarker?_eq_of_extends hs (hcovers e (by simp))]
  | @insert e stop rest s s₁ s₂ t marker a edits answers hstart hrendered hstop hstash _ _ ih =>
    have hs₁ : s₀.Extends s₁.stash := hs.trans hrendered.extends
    have hrest := ih (hstash ▸ hs₁) fun x hx => hcovers x (by simp [hx])
    rw [hrendered.length_eq hstash] at hrest
    refine .insert ?_ hrendered.attributes ?_ hrest
    · rw [← hstart, startMarker?_eq_of_extends hs (hcovers e (by simp))]
    · rw [← hstop, isEndMarker_eq_of_extends hs₁ (hcovers stop (by simp))]
  | @replace e old stop rest s s₁ s₂ t marker a edits answers hstart hrendered hold hstop hstash _
      _ ih =>
    have hs₁ : s₀.Extends s₁.stash := hs.trans hrendered.extends
    have hrest := ih (hstash ▸ hs₁) fun x hx => hcovers x (by simp [hx])
    rw [hrendered.length_eq hstash] at hrest
    refine .replace ?_ hrendered.attributes ?_ ?_ hrest
    · rw [← hstart, startMarker?_eq_of_extends hs (hcovers e (by simp))]
    · rw [← hold, isEndMarker_eq_of_extends hs₁ (hcovers old (by simp))]
    · rw [← hstop, isEndMarker_eq_of_extends hs₁ (hcovers stop (by simp))]

/-- The same for several lists of siblings. -/
theorem EditedAll.filledAll {ess : List (List Element)} {s t : State ω}
    {editss : List (List Edit)} {answers : List Answer} (he : EditedAll h ess s editss answers t)
    {s₀ : Stash} (hs : s₀.Extends s.stash) (hcovers : ∀ es ∈ ess, ∀ e ∈ es, s₀.Covers e) :
    FilledAll s₀ s.stash.entries.length ess editss answers := by
  induction he with
  | nil => exact .nil _
  | cons hedited _ ih =>
    have hrest := ih (hs.trans hedited.ran.extends) fun es hes => hcovers es (by simp [hes])
    rw [hedited.ran.length] at hrest
    exact .cons (hedited.filled hs (hcovers _ (by simp))) hrest

end Pass

end MathPage
