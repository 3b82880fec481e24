import MathPage.Proofs.Equation.Loop
import MathPage.Proofs.Equation.Phrase
import MathPage.Proofs.Equation.Record

/-!
# The work on the children of one element

The children of an element are worked on to their end if and only if they are a sentence whose start
markers can be read; then every block has got an image of its own, in the order of the list
(`children_grammar`).

* `Pass.childCalls` – the calls of the renderer that the work on the children makes;
* `Pass.scan_append_of_ok` – two lists of siblings one behind the other, of which the first is worked
  on to its end.
-/

namespace MathPage

open Stash

variable {ω : Type} {h : Host ω}

theorem Host.Answers.traced (ha : h.Answers) : h.traced.Answers := fun e w => ha e w.1

namespace Pass

/-! ### Lists one behind the other -/

/-- **What follows a list that is worked on to its end** is worked on as a list of its own. -/
theorem scan_append_of_ok (h : Host ω) (es : List Element) (s : State ω)
    (hok : (scan h es s).failure = none) (rest : List Element) :
    scan h (es ++ rest) s =
      { scan h rest (scan h es s).state with
        made := (scan h es s).made ++ (scan h rest (scan h es s).state).made
        count := (scan h es s).count + (scan h rest (scan h es s).state).count } := by
  fun_induction scan h es s with
  | case1 s => simp
  | case2 s e es hplain p ih =>
    simp only [List.cons_append, scan, hplain, ih hok]
    rfl
  | case3 | case4 | case6 | case8 | case10 | case12 => cases hok
  | case5 | case9 | case13 => exact absurd ‹unclosed h _ _ = _› unclosed_ne_ok
  | case7 s e marker hstart new s₁ hopened stop es hstop _ s₂ hnote ih =>
    simp only [List.cons_append, scan, hstart, hopened, hstop, hnote, if_true, Progress.pair,
      ih hok, Nat.add_right_comm, List.nil_append]
  | case11 s e marker hstart new s₁ hopened old hold stop es hstop _ s₂ hnote ih =>
    simp only [List.cons_append, scan, hstart, hopened, hold, hstop, hnote, if_true,
      Progress.pair, ih hok, Nat.add_right_comm, List.nil_append]
    rfl

theorem children_append_of_ok (h : Host ω) (e : Element) (es rest : List Element) (s : State ω)
    {p q : Progress ω Element} (hp : children h { e with children := es } s = p)
    (hq : children h { e with children := rest } p.state = q) (hok : p.failure = none) :
    children h { e with children := es ++ rest } s =
      ⟨{ e with children := p.made.children ++ q.made.children }, p.count + q.count, q.failure,
        q.state⟩ := by
  subst hp hq
  have hscan : (scan h es s).failure = none := hok
  obtain ⟨answers, hedited, -⟩ := edited_of_scan h es s hscan
  simp only [children, scan_append_of_ok h es s hscan, Edit.apply_append hedited.reach]

/-! ### Calls -/

theorem children_over {ω' : Type} {π : ω' → ω} {h' : Host ω'} (ho : Host.Over π h' h) (e : Element)
    (s : State ω') : children h e (s.map π) = (children h' e s).map π := by
  simp only [children, scan_over ho]
  rfl

/-- The calls of the renderer that the work on the children of an element makes. -/
def childCalls (h : Host ω) (e : Element) (s : State ω) : List Call :=
  (children h.traced e ⟨s.stash, s.outside, []⟩).state.outside.2

/-! ### What is accepted -/

/-- The children are worked on to their end if and only if they are a sentence whose start markers
can be read. -/
theorem children_ok_iff (hq : h.NeverRefuses) (ha : h.Answers) (e : Element) (s : State ω)
    (hcovers : ∀ x ∈ e.children, s.stash.Covers x) : (children h e s).failure = none ↔
      ∃ ps eqns, IsSentence s.stash e.children ps ∧ Opens s.stash ps eqns := by
  constructor
  · intro hok
    obtain ⟨answers, hedited, -⟩ := edited_of_scan h e.children s hok
    obtain ⟨ps, hsentence, hopens, -, -⟩ := (hedited.filled (Extends.refl _) hcovers).sentence
    exact ⟨ps, _, hsentence, hopens⟩
  · rintro ⟨ps, eqns, hsentence, hopens⟩
    exact scan_of_sentence hq ha hsentence hopens hcovers (Extends.refl _)

/-- The equations of a sentence are determined by it. -/
theorem Opens.unique {s : Stash} {ps : List Phrase} {eqns eqns' : List Equation}
    (ho : Opens s ps eqns) (ho' : Opens s ps eqns') : eqns = eqns' := by
  have hmap : eqns.map (Except.ok : Equation → Except Failure Equation) = eqns'.map Except.ok :=
    ho.symm.trans ho'
  exact List.map_injective_iff.2 (fun _ _ heq => Except.ok.inj heq) hmap

/-- A sentence whose start markers can be read gets its images: one for each block, in the order of
the list. -/
theorem children_of_sentence (hq : h.NeverRefuses) (ha : h.Answers) (e : Element) (s : State ω)
    (hcovers : ∀ x ∈ e.children, s.stash.Covers x) {ps : List Phrase} {eqns : List Equation}
    (hsentence : IsSentence s.stash e.children ps) (hopens : Opens s.stash ps eqns) :
    ∃ answers : List Answer, answers.map Answer.equation = eqns ∧
      (children h e s).made = { e with children := Phrase.draw s.stash.entries.length ps } ∧
      (children h e s).count = ps.countP Phrase.isBlock ∧
      (children h e s).state.stash.entries = s.stash.entries ++ answers.map Answer.entry ∧
      childCalls h e s = answers.map Answer.call := by
  have hover : children h e s = (children h.traced e ⟨s.stash, s.outside, []⟩).map Prod.fst :=
    children_over h.traced_over e ⟨s.stash, s.outside, []⟩
  have hok := scan_of_sentence hq.traced ha.traced hsentence hopens hcovers
    (Extends.refl (⟨s.stash, s.outside, []⟩ : State (ω × List Call)).stash)
  obtain ⟨answers, hedited, hcount⟩ := edited_of_scan h.traced e.children _ hok
  obtain ⟨ps', hsentence', hopens', hdraw, hblocks⟩ :=
    (hedited.filled (Extends.refl _) hcovers).sentence
  obtain rfl := hsentence.unique hsentence'
  refine ⟨answers, hopens'.unique hopens, ?_, ?_, ?_, hedited.ran.calls⟩
  · rw [hover]
    show ({ e with children := _ } : Element) = _
    rw [hdraw]
  · rw [hover, ← hblocks, ← hcount]
    rfl
  · rw [hover, ← hedited.ran.entries]
    rfl

/-- **The work on the children of an element.** It succeeds if and only if they are a sentence whose
start markers can be read. Then every block has got its own image, in the order of the list, for which
the renderer was called once with the attributes of the start marker. A loop that changes the list in
place does the same, in no more turns than there are children; and what follows a list that is worked
on to its end is worked on as a list of its own. -/
theorem children_grammar (h : Host ω) (hq : h.NeverRefuses) (ha : h.Answers) (e : Element)
    (s : State ω) (hcovers : ∀ x ∈ e.children, s.stash.Covers x) :
    ((children h e s).failure = none ↔
      ∃ ps eqns, IsSentence s.stash e.children ps ∧ Opens s.stash ps eqns) ∧
    (∀ ps eqns, IsSentence s.stash e.children ps → Opens s.stash ps eqns →
      ∃ answers : List Answer, answers.map Answer.equation = eqns ∧
        (children h e s).made = { e with children := Phrase.draw s.stash.entries.length ps } ∧
        (children h e s).count = ps.countP Phrase.isBlock ∧
        (children h e s).state.stash.entries = s.stash.entries ++ answers.map Answer.entry ∧
        childCalls h e s = answers.map Answer.call) ∧
    (∀ turns, e.children.length ≤ turns → Loop.run h turns ⟨e.children, 0, 0⟩ s =
      some { children h e s with made := (children h e s).made.children }) ∧
    (∀ (es rest : List Element) (p q : Progress ω Element),
      children h { e with children := es } s = p →
      children h { e with children := rest } p.state = q → p.failure = none →
      children h { e with children := es ++ rest } s =
        ⟨{ e with children := p.made.children ++ q.made.children }, p.count + q.count, q.failure,
          q.state⟩) := by
  refine ⟨children_ok_iff hq ha e s hcovers, fun ps eqns hsentence hopens => ?_, fun turns hturns =>
    ?_, fun es rest p q hp hq hok => children_append_of_ok h e es rest s hp hq hok⟩
  · exact children_of_sentence hq ha e s hcovers hsentence hopens
  · exact Loop.run_eq_scan h e.children s hturns

/-- A quotation of a pair of neighbours, a text, and a pair with a start marker in its middle. -/
def quotation : Element :=
  Element.node "blockquote" [Stash.image 0, Stash.image 1, Element.leaf "p" "z".toList,
    Stash.image 2, Stash.image 0, Stash.image 1]

/-- The quotation as it is read. -/
def quotationPhrases : List Phrase :=
  [.block (Stash.image 0) none (Stash.image 1), .plain (Element.leaf "p" "z".toList),
    .block (Stash.image 2) (some (Stash.image 0)) (Stash.image 1)]

theorem children_grammar_quotation :
    counter.NeverRefuses ∧ counter.Answers ∧ (∀ x ∈ quotation.children, sampleStash.Covers x) ∧
      IsSentence sampleStash quotation.children quotationPhrases ∧
      Opens sampleStash quotationPhrases
        [⟨"a".toList, [], "x".toList⟩, ⟨"b".toList, "y".toList, "y^2".toList⟩] ∧
      ∃ p, children counter quotation ⟨sampleStash, 7⟩ = p ∧ p.failure = none ∧ p.count = 2 ∧
        p.made = { quotation with children := Phrase.draw 3 quotationPhrases } ∧
        (childCalls counter quotation ⟨sampleStash, 7⟩).length = 2 ∧
        Loop.run counter 6 ⟨quotation.children, 0, 0⟩ ⟨sampleStash, 7⟩ =
          some { p with made := p.made.children } ∧
        ∃ front behind, children counter (Element.node "blockquote" [Stash.image 0, Stash.image 1])
            ⟨sampleStash, 7⟩ = front ∧ front.failure = none ∧
          children counter (Element.node "blockquote" [Element.leaf "p" "z".toList, Stash.image 2,
            Stash.image 0, Stash.image 1]) front.state = behind ∧
          p.made.children = front.made.children ++ behind.made.children := by
  have hq : counter.NeverRefuses := fun _ _ _ => rfl
  have ha : counter.Answers := fun _ _ => ⟨_, rfl⟩
  have hcovers : ∀ x ∈ quotation.children, sampleStash.Covers x := by decide
  have hsentence : IsSentence sampleStash quotation.children quotationPhrases :=
    ⟨rfl, by decide +kernel⟩
  have hopens : Opens sampleStash quotationPhrases
      [⟨"a".toList, [], "x".toList⟩, ⟨"b".toList, "y".toList, "y^2".toList⟩] := by rfl
  obtain ⟨hiff, hmade, hloop, happend⟩ :=
    children_grammar counter hq ha quotation ⟨sampleStash, 7⟩ hcovers
  obtain ⟨answers, hequations, hdrawn, hcount, -, hcalls⟩ := hmade _ _ hsentence hopens
  have hlength : (childCalls counter quotation ⟨sampleStash, 7⟩).length = 2 := by
    have hlen := congrArg List.length hequations
    rw [List.length_map] at hlen
    rw [hcalls, List.length_map, hlen]
    rfl
  refine ⟨hq, ha, hcovers, hsentence, hopens, _, rfl, hiff.2 ⟨_, _, hsentence, hopens⟩, hcount,
    hdrawn, hlength, hloop 6 (by decide), _, _, rfl, rfl, rfl, ?_⟩
  have hsplit := happend [Stash.image 0, Stash.image 1] [Element.leaf "p" "z".toList, Stash.image 2,
    Stash.image 0, Stash.image 1] _ _ rfl rfl rfl
  exact congrArg (fun p => p.made.children) hsplit

end Pass

end MathPage
