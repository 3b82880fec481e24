import MathPage.Proofs.Equation.Revision

/-!
# The grammar of a list of siblings

Read from left to right, a list of siblings is a sequence of phrases: elements that stand for no
start marker, and blocks. A block is a start marker and an end marker, with at most one element
between them that is no end marker itself.

* `Phrase` – an element or a block, and `Phrase.elements`, what it stands for in the list;
* `Phrase.Fits` – the phrases that the markers of a stash allow;
* `Pass.IsSentence` – a list that is a sequence of such phrases;
* `Phrase.draw` – the sequence with an image in every block.

There is one way at most to read a list (`IsSentence.unique`). A list that is edited to its end is a
sentence (`Edited.sentence`), and a sentence whose start markers can be read is scanned to its end if
nothing outside fails (`scan_of_sentence`).
-/

namespace MathPage

open Stash

/-- An element, or a block: a start marker and an end marker with at most one element between. -/
inductive Phrase where
  | plain (e : Element)
  | block (start : Element) (old : Option Element) (stop : Element)

namespace Phrase

/-- What a phrase stands for in a list of siblings. -/
def elements : Phrase → List Element
  | .plain e => [e]
  | .block start old stop => start :: (old.toList ++ [stop])

/-- The phrases that the markers of a stash allow. -/
def Fits (s : Stash) : Phrase → Prop
  | .plain e => Pass.startMarker? s e = none
  | .block start old stop => (Pass.startMarker? s start).isSome = true ∧
      (∀ e ∈ old, Pass.isEndMarker s e = false) ∧ Pass.isEndMarker s stop = true

instance (s : Stash) : ∀ p : Phrase, Decidable (p.Fits s)
  | .plain e => inferInstanceAs (Decidable (Pass.startMarker? s e = none))
  | .block start old stop => inferInstanceAs (Decidable ((Pass.startMarker? s start).isSome = true ∧
      (∀ e ∈ old, Pass.isEndMarker s e = false) ∧ Pass.isEndMarker s stop = true))

/-- The start marker that opens a phrase, if it is a block. -/
def marker? (s : Stash) : Phrase → Option Text
  | .plain _ => none
  | .block start _ _ => Pass.startMarker? s start

/-- Whether a phrase is a block. -/
def isBlock : Phrase → Bool
  | .plain _ => false
  | .block _ _ _ => true

/-- The phrases with an image in every block; the images are numbered from a position on. -/
def draw : ℕ → List Phrase → List Element
  | _, [] => []
  | n, .plain e :: ps => e :: draw n ps
  | n, .block start _ stop :: ps => start :: Stash.image n :: stop :: draw (n + 1) ps

end Phrase

namespace Pass

variable {ω : Type} {h : Host ω}

/-- A list of siblings is a sequence of phrases that fit. -/
structure IsSentence (s : Stash) (es : List Element) (ps : List Phrase) : Prop where
  elements : es = ps.flatMap Phrase.elements
  fits : ∀ p ∈ ps, p.Fits s

theorem IsSentence.nil (s : Stash) : IsSentence s [] [] := ⟨rfl, by simp⟩

theorem IsSentence.cons {s : Stash} {es : List Element} {p : Phrase} {ps : List Phrase}
    (hp : p.Fits s) (hs : IsSentence s es ps) : IsSentence s (p.elements ++ es) (p :: ps) where
  elements := by rw [List.flatMap_cons, ← hs.elements]
  fits := List.forall_mem_cons.2 ⟨hp, hs.fits⟩

theorem IsSentence.of_cons {s : Stash} {es : List Element} {p : Phrase} {ps : List Phrase}
    (hs : IsSentence s es (p :: ps)) :
    p.Fits s ∧ es = p.elements ++ ps.flatMap Phrase.elements ∧
      IsSentence s (ps.flatMap Phrase.elements) ps :=
  ⟨hs.fits p List.mem_cons_self, hs.elements,
    rfl, fun q hq => hs.fits q (List.mem_cons_of_mem _ hq)⟩

/-! ### One way to read -/

theorem Phrase.elements_ne_nil (p : Phrase) : p.elements ≠ [] := by
  cases p <;> exact List.cons_ne_nil _ _

/-- What opens a block is no phrase of its own. -/
theorem Phrase.Fits.not_plain {s : Stash} {start stop : Element} {old : Option Element}
    (hp : (Phrase.block start old stop).Fits s) : ¬ (Phrase.plain start).Fits s := fun hplain => by
  have hstart := hp.1
  rw [show startMarker? s start = none from hplain] at hstart
  cases hstart

/-- What ends a block stands between the markers of no block. -/
theorem Phrase.Fits.not_between {s : Stash} {start start' stop stop' : Element}
    {old : Option Element} (hp : (Phrase.block start old stop).Fits s) :
    ¬ (Phrase.block start' (some stop) stop').Fits s := fun hq => by
  have hold := hq.2.1 stop rfl
  rw [hp.2.2] at hold
  cases hold

/-- What a list begins with decides which phrase it begins with. -/
theorem Phrase.Fits.head_unique {s : Stash} {p q : Phrase} (hp : p.Fits s) (hq : q.Fits s)
    {es es' : List Element} (heq : p.elements ++ es = q.elements ++ es') : p = q ∧ es = es' := by
  match p, q with
  | .plain e, .plain e' =>
    simp only [Phrase.elements, List.cons_append, List.nil_append, List.cons.injEq] at heq
    obtain ⟨rfl, rfl⟩ := heq
    exact ⟨rfl, rfl⟩
  | .plain e, .block start old stop =>
    simp only [Phrase.elements, List.cons_append, List.cons.injEq] at heq
    obtain ⟨rfl, -⟩ := heq
    exact absurd hp (Phrase.Fits.not_plain hq)
  | .block start old stop, .plain e =>
    simp only [Phrase.elements, List.cons_append, List.cons.injEq] at heq
    obtain ⟨rfl, -⟩ := heq
    exact absurd hq (Phrase.Fits.not_plain hp)
  | .block start none stop, .block start' none stop' =>
    simp only [Phrase.elements, Option.toList_none, List.nil_append, List.cons_append,
      List.cons.injEq] at heq
    obtain ⟨rfl, rfl, rfl⟩ := heq
    exact ⟨rfl, rfl⟩
  | .block start (some old) stop, .block start' (some old') stop' =>
    simp only [Phrase.elements, Option.toList_some, List.nil_append, List.cons_append,
      List.cons.injEq] at heq
    obtain ⟨rfl, rfl, rfl, rfl⟩ := heq
    exact ⟨rfl, rfl⟩
  -- the second element would end the one block and stand between the markers of the other
  | .block start none stop, .block start' (some old) stop' =>
    simp only [Phrase.elements, Option.toList_none, Option.toList_some, List.nil_append,
      List.cons_append, List.cons.injEq] at heq
    obtain ⟨rfl, rfl, -⟩ := heq
    exact absurd hq (Phrase.Fits.not_between hp)
  | .block start (some old) stop, .block start' none stop' =>
    simp only [Phrase.elements, Option.toList_none, Option.toList_some, List.nil_append,
      List.cons_append, List.cons.injEq] at heq
    obtain ⟨rfl, rfl, -⟩ := heq
    exact absurd hp (Phrase.Fits.not_between hq)

/-- **A list of siblings can be read in one way only.** -/
theorem IsSentence.unique {s : Stash} {es : List Element} {ps qs : List Phrase}
    (hp : IsSentence s es ps) (hq : IsSentence s es qs) : ps = qs := by
  induction ps generalizing es qs with
  | nil =>
    cases qs with
    | nil => rfl
    | cons q qs =>
      obtain ⟨-, hes, -⟩ := hq.of_cons
      have hnil : q.elements ++ qs.flatMap Phrase.elements = [] := hes.symm.trans hp.elements
      exact absurd (List.append_eq_nil_iff.1 hnil).1 (Phrase.elements_ne_nil q)
  | cons p ps ih =>
    obtain ⟨hpf, hes, hps⟩ := hp.of_cons
    cases qs with
    | nil =>
      have hnil : p.elements ++ ps.flatMap Phrase.elements = [] := hes.symm.trans hq.elements
      exact absurd (List.append_eq_nil_iff.1 hnil).1 (Phrase.elements_ne_nil p)
    | cons q qs =>
      obtain ⟨hqf, hes', hqs⟩ := hq.of_cons
      obtain ⟨rfl, hrest⟩ := Phrase.Fits.head_unique hpf hqf (hes.symm.trans hes')
      rw [ih hps (hrest ▸ hqs)]

/-! ### Edited lists are sentences -/

/-- The start markers that open the blocks, each with its attributes. -/
def Opens (s : Stash) (ps : List Phrase) (eqns : List Equation) : Prop :=
  (ps.filterMap (Phrase.marker? s)).map Marker.attributes = eqns.map Except.ok

theorem Opens.cons {s : Stash} {p : Phrase} {ps : List Phrase} {eqns : List Equation}
    {eqn : Equation} {marker : Text} (hmarker : p.marker? s = some marker)
    (hattributes : Marker.attributes marker = .ok eqn) (ho : Opens s ps eqns) :
    Opens s (p :: ps) (eqn :: eqns) := by
  rw [Opens, List.filterMap_cons_some hmarker, List.map_cons, hattributes, ho, List.map_cons]

/-- **A list that is filled is a sentence**, and its blocks have got the images. -/
theorem Filled.sentence {s : Stash} {n : ℕ} {es : List Element} {edits : List Edit}
    {answers : List Answer} (hf : Filled s n es edits answers) :
    ∃ ps, IsSentence s es ps ∧ Opens s ps (answers.map Answer.equation) ∧
      Edit.apply edits es = Phrase.draw n ps ∧ answers.length = ps.countP Phrase.isBlock := by
  induction hf with
  | nil => exact ⟨[], .nil s, rfl, rfl, rfl⟩
  | @plain n e rest edits answers hplain _ ih =>
    obtain ⟨ps, hs, hopens, hdraw, hcount⟩ := ih
    refine ⟨.plain e :: ps, hs.cons (p := .plain e) hplain, hopens, ?_, hcount⟩
    rw [Edit.apply, hdraw, Phrase.draw]
  | @insert n e stop rest edits a answers marker hstart hattributes hstop _ ih =>
    obtain ⟨ps, hs, hopens, hdraw, hcount⟩ := ih
    have hfits : (Phrase.block e none stop).Fits s := ⟨by rw [hstart]; rfl, by simp, hstop⟩
    refine ⟨.block e none stop :: ps, hs.cons hfits, hopens.cons hstart hattributes, ?_, ?_⟩
    · simp only [Edit.apply, hdraw, Phrase.draw]
    · rw [List.length_cons, hcount, List.countP_cons_of_pos rfl]
  | @replace n e old stop rest edits a answers marker hstart hattributes hold hstop _ ih =>
    obtain ⟨ps, hs, hopens, hdraw, hcount⟩ := ih
    have hfits : (Phrase.block e (some old) stop).Fits s :=
      ⟨by rw [hstart]; rfl, by simpa using hold, hstop⟩
    refine ⟨.block e (some old) stop :: ps, hs.cons hfits, hopens.cons hstart hattributes, ?_, ?_⟩
    · simp only [Edit.apply, hdraw, Phrase.draw]
    · rw [List.length_cons, hcount, List.countP_cons_of_pos rfl]

/-! ### Sentences are scanned to their ends -/

theorem Opens.of_plain {s : Stash} {e : Element} {ps : List Phrase} {eqns : List Equation}
    (ho : Opens s (.plain e :: ps) eqns) : Opens s ps eqns := ho

theorem Opens.of_block {s : Stash} {start stop : Element} {old : Option Element} {ps : List Phrase}
    {eqns : List Equation} {marker : Text} (hstart : startMarker? s start = some marker)
    (ho : Opens s (.block start old stop :: ps) eqns) :
    ∃ eqn rest, Marker.attributes marker = .ok eqn ∧ Opens s ps rest := by
  have hmarker : (Phrase.block start old stop).marker? s = some marker := hstart
  rw [Opens, List.filterMap_cons_some hmarker, List.map_cons] at ho
  cases eqns with
  | nil => cases ho
  | cons eqn rest =>
    obtain ⟨hattributes, hrest⟩ := List.cons.inj ho
    exact ⟨eqn, rest, hattributes, hrest⟩

/-- What is logged when a block gets its image. -/
def Phrase.notice (old : Option Element) : Text :=
  if old.isSome then "Replacing existing node...".toList else "Inserting new node...".toList

/-- The edits of a block. -/
def Phrase.edits (old : Option Element) (new : Element) : List Edit :=
  [.keep, if old.isSome then .replace new else .insert new, .keep]

/-- An element that stands for no start marker is kept. -/
theorem scan_plain {s₀ : Stash} {e : Element} (hfits : (Phrase.plain e).Fits s₀)
    (hcovers : s₀.Covers e) {s : State ω} (hs : s₀.Extends s.stash) (rest : List Element) :
    scan h ((Phrase.plain e).elements ++ rest) s =
      { scan h rest s with made := .keep :: (scan h rest s).made } := by
  have hplain : startMarker? s.stash e = none := (startMarker?_eq_of_extends hs hcovers).trans hfits
  simp only [Phrase.elements, List.singleton_append, scan, hplain]

/-- A block is opened, announced and edited, and then comes what is behind it. -/
theorem scan_block {s₀ : Stash} {start stop : Element} {old : Option Element}
    (hfits : (Phrase.block start old stop).Fits s₀)
    (hcovers : ∀ e ∈ (Phrase.block start old stop).elements, s₀.Covers e) {s : State ω}
    (hs : s₀.Extends s.stash) {marker : Text} (hmarker : startMarker? s₀ start = some marker)
    (rest : List Element) :
    scan h ((Phrase.block start old stop).elements ++ rest) s =
      match opened h marker s with
      | (.error f, s₁) => .failed [] f s₁
      | (.ok new, s₁) =>
        match note h (Phrase.notice old) s₁ with
        | (.error f, s₂) => .failed [] f s₂
        | (.ok _, s₂) => (scan h rest s₂).pair (Phrase.edits old new) := by
  obtain ⟨-, hold, hend⟩ := hfits
  have hmarker' : startMarker? s.stash start = some marker :=
    (startMarker?_eq_of_extends hs (hcovers start (by simp [Phrase.elements]))).trans hmarker
  rcases hopened : opened h marker s with ⟨f | new, s₁⟩
  · simp only [Phrase.elements, List.cons_append, scan, hmarker', hopened]
  obtain ⟨a, hrendered, -⟩ := opened_eq_ok hopened
  have hs₁ : s₀.Extends s₁.stash := hs.trans hrendered.extends
  have hend' : isEndMarker s₁.stash stop = true :=
    (isEndMarker_eq_of_extends hs₁ (hcovers stop (by simp [Phrase.elements]))).trans hend
  cases old with
  | none =>
    simp only [Phrase.elements, Option.toList_none, List.nil_append, List.cons_append, scan,
      hmarker', hopened, hend', if_true]
    rfl
  | some e =>
    have he : isEndMarker s₁.stash e = false :=
      (isEndMarker_eq_of_extends hs₁ (hcovers e (by simp [Phrase.elements]))).trans (hold e rfl)
    simp only [Phrase.elements, Option.toList_some, List.nil_append, List.cons_append, scan,
      hmarker', hopened, he, hend', Bool.false_eq_true, if_false, if_true]
    rfl

/-- **A sentence is scanned to its end** if its start markers can be read, the renderer answers and
the logger takes every message. -/
theorem scan_of_sentence (hq : h.NeverRefuses) (ha : h.Answers) {s₀ : Stash} {ps : List Phrase}
    {es : List Element} (hsentence : IsSentence s₀ es ps) {eqns : List Equation}
    (hopens : Opens s₀ ps eqns) (hcovers : ∀ e ∈ es, s₀.Covers e) {s : State ω}
    (hs : s₀.Extends s.stash) : (scan h es s).failure = none := by
  induction ps generalizing es eqns s with
  | nil =>
    obtain rfl := hsentence.elements
    rfl
  | cons p ps ih =>
    obtain ⟨hfits, rfl, hrest⟩ := hsentence.of_cons
    have hcovers' : ∀ e ∈ ps.flatMap Phrase.elements, s₀.Covers e := fun e he =>
      hcovers e (List.mem_append_right _ he)
    match p with
    | .plain e =>
      rw [scan_plain hfits (hcovers e (by simp [Phrase.elements])) hs]
      exact ih hrest hopens.of_plain hcovers' hs
    | .block start old stop =>
      obtain ⟨marker, hmarker⟩ := Option.isSome_iff_exists.1 hfits.1
      obtain ⟨eqn, eqns, hattributes, hopens⟩ := hopens.of_block hmarker
      obtain ⟨a, u, -, hrendered, hopened⟩ := exists_opened_eq_ok hq hattributes (ha eqn) s
      obtain ⟨w, hnote, -⟩ := exists_note_eq_ok hq (Phrase.notice old) u
      rw [scan_block hfits (fun e he => hcovers e (List.mem_append_left _ he)) hs hmarker]
      simp only [hopened, hnote]
      exact ih hrest hopens hcovers' (hs.trans hrendered.extends)

/-- A failure in a sentence ends the scan, whatever is behind the sentence. -/
theorem scan_append_of_failed {s₀ : Stash} {ps : List Phrase} {es : List Element}
    (hsentence : IsSentence s₀ es ps) (hcovers : ∀ e ∈ es, s₀.Covers e) {s : State ω}
    (hs : s₀.Extends s.stash) {f : Failure} (hf : (scan h es s).failure = some f)
    (rest : List Element) : scan h (es ++ rest) s = scan h es s := by
  induction ps generalizing es s with
  | nil =>
    obtain rfl := hsentence.elements
    cases hf
  | cons p ps ih =>
    obtain ⟨hfits, rfl, hsentence'⟩ := hsentence.of_cons
    have hcovers' : ∀ e ∈ ps.flatMap Phrase.elements, s₀.Covers e := fun e he =>
      hcovers e (List.mem_append_right _ he)
    rw [List.append_assoc]
    match p with
    | .plain e =>
      have hcovered : s₀.Covers e := hcovers e (by simp [Phrase.elements])
      rw [scan_plain hfits hcovered hs] at hf ⊢
      rw [scan_plain hfits hcovered hs, ih hsentence' hcovers' hs hf]
    | .block start old stop =>
      have hblock : ∀ e ∈ (Phrase.block start old stop).elements, s₀.Covers e := fun e he =>
        hcovers e (List.mem_append_left _ he)
      obtain ⟨marker, hmarker⟩ := Option.isSome_iff_exists.1 hfits.1
      rw [scan_block hfits hblock hs hmarker] at hf ⊢
      rw [scan_block hfits hblock hs hmarker]
      rcases hopened : opened h marker s with ⟨f' | new, s₁⟩
      · rfl
      rcases hnote : note h (Phrase.notice old) s₁ with ⟨f' | _, s₂⟩
      · simp only [hnote]
      obtain ⟨a, hrendered, -⟩ := opened_eq_ok hopened
      have hs₂ : s₀.Extends s₂.stash := by
        rw [(note_eq hnote).1]
        exact hs.trans hrendered.extends
      simp only [hopened, hnote] at hf ⊢
      rw [ih hsentence' hcovers' hs₂ hf]

end Pass

end MathPage
