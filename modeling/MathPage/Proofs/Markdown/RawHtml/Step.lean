import MathPage.Markdown.RawHtml.Extract
import Mathlib.Tactic

/-!
# Steps of the extraction of raw HTML

* `Passes` – the first pass goes on from another state with what is left of the text;
* `passes_token`, `passes_prose` – markup is read token by token, and text up to the next markup.
-/

namespace MathPage.Markdown.RawHtml

/-- The first pass goes from one state and text to another. -/
def Passes (s : State) (t : Text) (s' : State) (t' : Text) : Prop :=
  ∀ fuel, t.length < fuel →
    ∃ fuel', t'.length < fuel' ∧ pass false fuel s t = pass false fuel' s' t'

theorem Passes.refl (s : State) (t : Text) : Passes s t s t := fun fuel hfuel => ⟨fuel, hfuel, rfl⟩

theorem Passes.trans {s s' s'' : State} {t t' t'' : Text} (h : Passes s t s' t')
    (h' : Passes s' t' s'' t'') : Passes s t s'' t'' := fun fuel hfuel => by
  obtain ⟨fuel', hfuel', heq⟩ := h fuel hfuel
  obtain ⟨fuel'', hfuel'', heq'⟩ := h' fuel' hfuel'
  exact ⟨fuel'', hfuel'', heq.trans heq'⟩

/-! ### What a step keeps -/

/-- Moving the position changes nothing else. -/
theorem State.advance_eq (s : State) (u : Text) :
    ∃ line column, s.advance u = { s with line := line, column := column } := by
  unfold State.advance
  simp only
  split <;> exact ⟨_, _, rfl⟩

/-- Looking up the start of a line changes nothing else. -/
theorem State.atLineStart_eq (s : State) : s.atLineStart.2 = s ∨ s.atLineStart.2 = s.locate := by
  unfold State.atLineStart
  split
  · exact Or.inl rfl
  · split
    · exact Or.inl rfl
    · exact Or.inr rfl

/-! ### One step -/

/-- What a token does, if it can be read at once. -/
def State.take (s : State) (written : Text) : Token → Option State
  | .text => some (s.text written)
  | .single u block => some (s.single u block)
  | .comment u => some (s.comment u)
  | .closed tag => some (s.closed tag)
  | .opened tag => if State.isOpaque tag then none else some (s.opened tag written)
  | .endless | .stray => none

/-- **A token is read in one step.** -/
theorem passes_token {s s' : State} {u rest : Text} {tok : Token}
    (hmark : ∃ c v, u = c :: v ∧ (c = '<' ∨ c = '&'))
    (hdeclaration : maybeDeclaration (u ++ rest) = false)
    (htoken : token s.behind (u ++ rest) = (u.length, tok)) (htake : s.take u tok = some s') :
    Passes s (u ++ rest) (s'.advance u) rest := fun fuel hfuel => by
  obtain ⟨fuel, rfl⟩ := Nat.exists_eq_succ_of_ne_zero (Nat.ne_zero_of_lt hfuel)
  obtain ⟨c, v, rfl, hc⟩ := hmark
  have htake' : (c :: v ++ rest).take (c :: v).length = c :: v := List.take_left
  have hdrop : (c :: v ++ rest).drop (c :: v).length = rest := List.drop_left
  have hplain : (c != '<' && c != '&') = false := by
    rcases hc with rfl | rfl <;> rfl
  refine ⟨fuel, by simp at hfuel; omega, ?_⟩
  rw [List.cons_append] at htoken hdeclaration htake' hdrop ⊢
  cases tok with
  | endless | stray => cases htake
  | opened tag =>
    simp only [State.take] at htake
    split at htake
    · cases htake
    · rename_i hverbatim
      cases htake
      have hverbatim : State.isOpaque tag = false := by simpa using hverbatim
      simp only [pass, hplain, hdeclaration, Bool.false_and, Bool.false_eq_true, if_false, htoken,
        htake', hdrop, hverbatim, Bool.and_false]
  | text | single | comment | closed =>
    cases htake
    simp only [pass, hplain, hdeclaration, Bool.false_and, Bool.false_eq_true, if_false, htoken,
      htake', hdrop]

/-- Text without markup. -/
def IsProse (t : Text) : Prop := ∀ c ∈ t, c ≠ '<' ∧ c ≠ '&'

instance (t : Text) : Decidable (IsProse t) :=
  List.decidableBAll _ t

/-- Text is read up to the next markup. -/
theorem passes_prose {s s' : State} {u rest : Text} (hne : u ≠ []) (hu : IsProse u)
    (hrest : ∀ c ∈ rest.head?, c = '<' ∨ c = '&') (htext : s.text u = s') :
    Passes s (u ++ rest) (s'.advance u) rest := fun fuel hfuel => by
  obtain ⟨fuel, rfl⟩ := Nat.exists_eq_succ_of_ne_zero (Nat.ne_zero_of_lt hfuel)
  have hlength := List.length_pos_iff.2 hne
  have hplain : ∀ c ∈ u, (c != '<' && c != '&') = true := fun c hc => by
    rw [Bool.and_eq_true, bne_iff_ne, bne_iff_ne]
    exact hu c hc
  have htake : (u ++ rest).takeWhile (fun c => c != '<' && c != '&') = u := by
    rw [List.takeWhile_append_of_pos hplain]
    rcases rest with _ | ⟨c, rest⟩
    · simp
    · rcases hrest c rfl with rfl | rfl <;> simp
  refine ⟨fuel, by rw [List.length_append] at hfuel; omega, ?_⟩
  obtain ⟨c, u', rfl⟩ := List.exists_cons_of_ne_nil hne
  rw [List.cons_append] at htake ⊢
  simp only [pass, hplain c List.mem_cons_self, if_true, htake, htext]
  rw [← List.cons_append, List.drop_left]

end MathPage.Markdown.RawHtml
