import MathPage.Text.Pattern
import Mathlib.Tactic

/-!
# What a pattern takes

* `Cursor.between` – the cursor between two parts of a text;
* `Pattern.Leaves` – what a pattern may leave of a text; of the characters before the text, and of
  texts that must not follow, it says nothing;
* `Pattern.run_sound` – a match leaves what its pattern may leave;
* `Pattern.Needs` – words without which a pattern matches nowhere;
* `Pattern.findFrom?_eq_none`, `Pattern.findFrom?_eq_some` – when a search fails, and what it gives;
* `Pattern.run_star_unlessAt` – a repetition that stops where another pattern matches.
-/

namespace MathPage

namespace Cursor

/-- The cursor between two parts of a text. -/
def between (a b : Text) : Cursor := ⟨a.reverse, b, a.length, []⟩

/-- The second cursor stands behind the first in the same text. -/
def Reaches (c c' : Cursor) : Prop :=
  ∃ u, c.rest = u ++ c'.rest ∧ c'.back = u.reverse ++ c.back ∧ c'.pos = c.pos + u.length

theorem Reaches.refl (c : Cursor) : c.Reaches c := ⟨[], rfl, rfl, rfl⟩

theorem Reaches.trans {c d e : Cursor} (hcd : c.Reaches d) (hde : d.Reaches e) : c.Reaches e := by
  obtain ⟨u, hrest, hback, hpos⟩ := hcd
  obtain ⟨v, hrest', hback', hpos'⟩ := hde
  refine ⟨u ++ v, ?_, ?_, ?_⟩
  · rw [hrest, hrest', List.append_assoc]
  · rw [hback', hback, List.reverse_append, List.append_assoc]
  · rw [hpos', hpos, List.length_append, Nat.add_assoc]

theorem step?_eq_some {c c' : Cursor} {x : Char} :
    c.step? = some (x, c') ↔
      ∃ xs, c.rest = x :: xs ∧ c' = ⟨x :: c.back, xs, c.pos + 1, c.captures⟩ := by
  obtain ⟨back, _ | ⟨y, ys⟩, pos, captures⟩ := c
  · simp [step?]
  · simp only [step?, Option.some.injEq, Prod.mk.injEq, List.cons.injEq]
    constructor
    · rintro ⟨rfl, rfl⟩
      exact ⟨ys, ⟨rfl, rfl⟩, rfl⟩
    · rintro ⟨xs, ⟨rfl, rfl⟩, rfl⟩
      exact ⟨rfl, rfl⟩

theorem pass?_eq_some {t : Text} {c c' : Cursor} :
    c.pass? t = some c' ↔
      ∃ xs, c.rest = t ++ xs ∧
        c' = ⟨t.reverse ++ c.back, xs, c.pos + t.length, c.captures⟩ := by
  induction t generalizing c with
  | nil =>
    simp only [pass?, Option.some.injEq]
    constructor
    · rintro rfl
      exact ⟨c.rest, rfl, rfl⟩
    · rintro ⟨xs, hrest, rfl⟩
      cases c
      simp_all
  | cons x t ih =>
    obtain ⟨back, _ | ⟨y, ys⟩, pos, captures⟩ := c
    · simp [pass?, step?]
    · simp only [pass?, step?]
      split
      · rename_i hxy
        subst hxy
        rw [ih]
        simp only [List.cons_append, List.cons.injEq, true_and, List.reverse_cons,
          List.append_assoc, List.nil_append, List.length_cons, Nat.add_assoc,
          Nat.add_comm 1]
      · rename_i hxy
        simp only [reduceCtorEq, List.cons_append, List.cons.injEq, false_iff, not_exists, not_and]
        rintro _ ⟨rfl, -⟩
        exact absurd rfl hxy

end Cursor

namespace Pattern

/-! ### Ways through a pattern -/

/-- Several rounds of a repetition, one after the other. -/
inductive Rounds (R : Text → Text → Prop) : ℕ → Text → Text → Prop
  | done (t : Text) : Rounds R 0 t t
  | more {n : ℕ} {t u v : Text} (hfirst : R t u) (hrest : Rounds R n u v) : Rounds R (n + 1) t v

/-- What a pattern may leave of a text that it stands in front of. -/
def Leaves : Pattern → Text → Text → Prop
  | .empty, t, t' => t' = t
  | .one p, t, t' => ∃ x, t = x :: t' ∧ p x = true
  | .text u, t, t' => t = u ++ t'
  | .seq a b, t, t' => ∃ u, a.Leaves t u ∧ b.Leaves u t'
  | .alt a b, t, t' => a.Leaves t t' ∨ b.Leaves t t'
  | .many _ lo _ a, t, t' => ∃ n, lo ≤ n ∧ Rounds a.Leaves n t t'
  | .capture _ a, t, t' => a.Leaves t t'
  | .same _, t, t' => ∃ u, t = u ++ t'
  | .previous _, t, t' => t' = t
  | .next p, t, t' => p t.head? = true ∧ t' = t
  | .ahead positive a, t, t' => (positive = true → ∃ u, a.Leaves t u) ∧ t' = t

theorem orElse_eq_some {α : Type} {a : Option α} {b : Unit → Option α} {x : α}
    (h : a.orElse b = some x) : a = some x ∨ b () = some x := by
  cases a with
  | none => exact Or.inr h
  | some y => exact Or.inl h

theorem rounds_sound {greedy : Bool}
    {step : Cursor → (Cursor → Option Cursor) → Option Cursor} {R : Text → Text → Prop}
    (hstep : ∀ c k d, step c k = some d → ∃ c', c.Reaches c' ∧ R c.rest c'.rest ∧ k c' = some d)
    {k : Cursor → Option Cursor} {fuel : Text} {lo : ℕ} {hi : Option ℕ} {c d : Cursor}
    (h : rounds greedy step k fuel lo hi c = some d) :
    ∃ n c', lo ≤ n ∧ c.Reaches c' ∧ Rounds R n c.rest c'.rest ∧ k c' = some d := by
  induction fuel generalizing lo hi c with
  | nil =>
    simp only [rounds] at h
    split at h
    · rename_i hlo
      exact ⟨0, c, hlo.le, .refl c, .done _, h⟩
    · cases h
  | cons x fuel ih =>
    have hstop : (if lo = 0 then k c else none) = some d →
        ∃ n c', lo ≤ n ∧ c.Reaches c' ∧ Rounds R n c.rest c'.rest ∧ k c' = some d := fun h => by
      split at h
      · rename_i hlo
        exact ⟨0, c, hlo.le, .refl c, .done _, h⟩
      · cases h
    have hmore : (if hi = some 0 then none else step c fun c' =>
        if c'.pos = c.pos then none
        else rounds greedy step k fuel (lo - 1) (hi.map (· - 1)) c') = some d →
        ∃ n c', lo ≤ n ∧ c.Reaches c' ∧ Rounds R n c.rest c'.rest ∧ k c' = some d := fun h => by
      split at h
      · cases h
      · obtain ⟨c', hc, hR, h⟩ := hstep _ _ _ h
        split at h
        · cases h
        · obtain ⟨n, e, hn, hc', hrounds, hk⟩ := ih h
          exact ⟨n + 1, e, by omega, hc.trans hc', .more hR hrounds, hk⟩
    simp only [rounds] at h
    split at h <;> rcases orElse_eq_some h with h | h
    · exact hmore h
    · exact hstop h
    · exact hstop h
    · exact hmore h

/-- **A match goes forward and leaves what its pattern may leave.** -/
theorem run_sound (p : Pattern) {c d : Cursor} {k : Cursor → Option Cursor}
    (h : p.run c k = some d) : ∃ c', c.Reaches c' ∧ p.Leaves c.rest c'.rest ∧ k c' = some d := by
  induction p generalizing c k d with
  | empty => exact ⟨c, .refl c, rfl, h⟩
  | one p =>
    simp only [run] at h
    split at h
    · rename_i x c' hc
      split at h
      · rename_i hx
        obtain ⟨xs, hrest, rfl⟩ := Cursor.step?_eq_some.1 hc
        exact ⟨⟨x :: c.back, xs, c.pos + 1, c.captures⟩, ⟨[x], hrest, rfl, rfl⟩, ⟨x, hrest, hx⟩, h⟩
      · cases h
    · cases h
  | text t =>
    simp only [run] at h
    split at h
    · rename_i c' hc
      obtain ⟨xs, hrest, rfl⟩ := Cursor.pass?_eq_some.1 hc
      exact ⟨⟨t.reverse ++ c.back, xs, c.pos + t.length, c.captures⟩, ⟨t, hrest, rfl, rfl⟩, hrest, h⟩
    · cases h
  | seq a b iha ihb =>
    obtain ⟨d', hc, ha, h⟩ := iha h
    obtain ⟨c', hc', hb, hk⟩ := ihb h
    exact ⟨c', hc.trans hc', ⟨_, ha, hb⟩, hk⟩
  | alt a b iha ihb =>
    rcases orElse_eq_some h with h | h
    · obtain ⟨c', hc, ha, hk⟩ := iha h
      exact ⟨c', hc, Or.inl ha, hk⟩
    · obtain ⟨c', hc, hb, hk⟩ := ihb h
      exact ⟨c', hc, Or.inr hb, hk⟩
  | many greedy lo hi a ih =>
    obtain ⟨n, c', hn, hc, hrounds, hk⟩ :=
      rounds_sound (R := a.Leaves) (fun _ _ _ hstep => ih hstep) h
    exact ⟨c', hc, ⟨n, hn, hrounds⟩, hk⟩
  | capture n a ih =>
    obtain ⟨c', ⟨u, hrest, hback, hpos⟩, ha, hk⟩ := ih h
    exact ⟨{ c' with captures := (n, c.rest, c'.pos - c.pos) :: c'.captures },
      ⟨u, hrest, hback, hpos⟩, ha, hk⟩
  | same n =>
    simp only [run] at h
    split at h
    · rename_i t ht
      split at h
      · rename_i c' hc
        obtain ⟨xs, hrest, rfl⟩ := Cursor.pass?_eq_some.1 hc
        exact ⟨_, ⟨t, hrest, rfl, rfl⟩, ⟨t, hrest⟩, h⟩
      · cases h
    · cases h
  | previous p =>
    simp only [run] at h
    split at h
    · exact ⟨c, .refl c, rfl, h⟩
    · cases h
  | next p =>
    simp only [run] at h
    split at h
    · rename_i hp
      exact ⟨c, .refl c, ⟨hp, rfl⟩, h⟩
    · cases h
  | ahead positive a ih =>
    cases positive with
    | true =>
      simp only [run] at h
      cases ha : a.run c some with
      | none => simp [ha] at h
      | some d' =>
        obtain ⟨e, -, he, -⟩ := ih ha
        simp only [ha] at h
        exact ⟨{ c with captures := d'.captures }, ⟨[], rfl, rfl, rfl⟩, ⟨fun _ => ⟨_, he⟩, rfl⟩, h⟩
    | false =>
      simp only [run] at h
      cases ha : a.run c some with
      | none =>
        simp only [ha] at h
        exact ⟨c, .refl c, ⟨Bool.noConfusion, rfl⟩, h⟩
      | some d' => simp [ha] at h

/-- A pattern that may leave nothing of a text does not match there. -/
theorem run_eq_none {p : Pattern} {c : Cursor} (h : ∀ t', ¬ p.Leaves c.rest t')
    (k : Cursor → Option Cursor) : p.run c k = none := by
  cases hrun : p.run c k with
  | none => rfl
  | some d =>
    obtain ⟨c', -, hp, -⟩ := run_sound p hrun
    exact absurd hp (h _)

/-- What is left is an end of the text. -/
theorem Rounds.suffix {R : Text → Text → Prop} (hR : ∀ t t', R t t' → t' <:+ t) {n : ℕ}
    {t t' : Text} (h : Rounds R n t t') : t' <:+ t := by
  induction h with
  | done t => exact List.suffix_refl t
  | more hfirst _ ih => exact ih.trans (hR _ _ hfirst)

theorem Leaves.suffix (p : Pattern) {t t' : Text} (h : p.Leaves t t') : t' <:+ t := by
  induction p generalizing t t' with
  | empty | previous => exact h ▸ List.suffix_refl t
  | one p =>
    obtain ⟨x, rfl, -⟩ := h
    exact List.suffix_cons x t'
  | text u => exact ⟨u, h.symm⟩
  | seq a b iha ihb =>
    obtain ⟨u, ha, hb⟩ := h
    exact (ihb hb).trans (iha ha)
  | alt a b iha ihb => exact h.elim iha ihb
  | many greedy lo hi a ih =>
    obtain ⟨n, -, hrounds⟩ := h
    exact hrounds.suffix fun _ _ => ih
  | capture n a ih => exact ih h
  | same n =>
    obtain ⟨u, rfl⟩ := h
    exact List.suffix_append u t'
  | next p | ahead positive a => exact h.2 ▸ List.suffix_refl t

/-- Rounds over one character each. -/
theorem Rounds.of_one {p : Char → Bool} {n : ℕ} {t t' : Text} (h : Rounds (one p).Leaves n t t') :
    ∃ u, t = u ++ t' ∧ u.length = n ∧ ∀ c ∈ u, p c = true := by
  induction h with
  | done t => exact ⟨[], rfl, rfl, fun _ hc => absurd hc List.not_mem_nil⟩
  | more hfirst _ ih =>
    obtain ⟨x, rfl, hx⟩ := hfirst
    obtain ⟨u, rfl, rfl, hu⟩ := ih
    refine ⟨x :: u, rfl, rfl, fun c hc => ?_⟩
    rcases List.mem_cons.1 hc with rfl | hc
    · exact hx
    · exact hu c hc

/-! ### What a pattern needs -/

/-- Wherever the pattern matches, one of some words stands. -/
def Needs (ws : List Text) (p : Pattern) : Prop := ∀ t t', p.Leaves t t' → ∃ w ∈ ws, w <:+: t

variable {ws : List Text} {a b p : Pattern}

theorem needs_text {u : Text} (h : u ∈ ws) : Needs ws (.text u) := by
  rintro t t' rfl
  exact ⟨u, h, (List.prefix_append u t').isInfix⟩

theorem needs_char {c : Char} (h : [c] ∈ ws) : Needs ws (char c) := by
  rintro t t' ⟨x, rfl, hx⟩
  exact ⟨[c], h, ⟨[], t', by rw [eq_of_beq hx]; rfl⟩⟩

theorem needs_seq_left (h : Needs ws a) : Needs ws (.seq a b) := by
  rintro t t' ⟨u, ha, -⟩
  exact h t u ha

theorem needs_seq_right (h : Needs ws b) : Needs ws (.seq a b) := by
  rintro t t' ⟨u, ha, hb⟩
  obtain ⟨w, hw, hpart⟩ := h u t' hb
  exact ⟨w, hw, hpart.trans (Leaves.suffix a ha).isInfix⟩

theorem needs_alt (ha : Needs ws a) (hb : Needs ws b) : Needs ws (.alt a b) := by
  rintro t t' (h | h)
  · exact ha t t' h
  · exact hb t t' h

theorem needs_ahead (h : Needs ws a) : Needs ws (.ahead true a) := by
  rintro t t' ⟨hahead, -⟩
  obtain ⟨u, hu⟩ := hahead rfl
  exact h t u hu

/-- A pattern matches nowhere in a text without the words that it needs. -/
theorem run_eq_none_of_needs (h : Needs ws p) {t u v : Text} (ht : t = u ++ v)
    (hws : ∀ w ∈ ws, ¬ w <:+: t) : p.run (.between u v) some = none := by
  refine run_eq_none (fun t' hleaves => ?_) some
  obtain ⟨w, hw, hpart⟩ := h v t' hleaves
  exact hws w hw (hpart.trans (ht ▸ (List.suffix_append u v).isInfix))

/-! ### Searches -/

theorem start_advance (a b : Text) : (Cursor.start (a ++ b)).advance a.length = .between a b := by
  have hgen : ∀ (a back : Text) (n : ℕ), Cursor.advance a.length ⟨back, a ++ b, n, []⟩ =
      ⟨a.reverse ++ back, b, n + a.length, []⟩ := fun a => by
    induction a with
    | nil => exact fun _ _ => rfl
    | cons x a ih =>
      intro back n
      simp only [List.length_cons, Cursor.advance, Cursor.step?, List.cons_append, ih,
        List.reverse_cons, List.append_assoc, List.nil_append, Nat.add_assoc, Nat.add_comm 1]
  have h := hgen a [] 0
  rwa [List.append_nil, Nat.zero_add] at h

theorem advance_of_length_le {t : Text} {n : ℕ} (h : t.length ≤ n) :
    (Cursor.start t).advance n = .between t [] := by
  have hend : ∀ (m : ℕ) (a : Text), (Cursor.between a []).advance m = .between a [] := fun m a => by
    cases m <;> rfl
  have hsplit : ∀ (m k : ℕ) (c : Cursor), c.advance (m + k) = (c.advance m).advance k := by
    intro m k
    induction m with
    | zero => exact fun c => by rw [Nat.zero_add]; rfl
    | succ m ih =>
      intro c
      rw [Nat.add_right_comm]
      cases hc : c.step? with
      | none =>
        have hadvance : ∀ j, c.advance j = c := fun j => by cases j <;> simp [Cursor.advance, hc]
        rw [hadvance, hadvance, hadvance]
      | some xc => simp only [Cursor.advance, hc, ih]
  have hstart := start_advance t []
  rw [List.append_nil] at hstart
  obtain ⟨k, rfl⟩ := Nat.exists_eq_add_of_le h
  rw [hsplit, hstart, hend]

theorem scan_eq_none {p : Pattern} (fuel : ℕ) {a b : Text}
    (h : ∀ u v, b = u ++ v → p.run (.between (a ++ u) v) some = none) :
    p.scan fuel (.between a b) = none := by
  induction fuel generalizing a b with
  | zero => rfl
  | succ fuel ih =>
    have hhere : p.at? (.between a b) = none := by
      have := h [] b rfl
      rw [List.append_nil] at this
      rw [at?, this, Option.map_none]
    cases b with
    | nil =>
      simp only [scan, hhere]
      rfl
    | cons x b =>
      have hnext : (Cursor.between a (x :: b)).step? = some (x, .between (a ++ [x]) b) := by
        simp [Cursor.step?, Cursor.between]
      simp only [scan, hhere, hnext]
      refine ih fun u v huv => ?_
      have := h (x :: u) v (by rw [huv, List.cons_append])
      rwa [List.append_assoc]

theorem scan_eq_some {p : Pattern} {fuel : ℕ} {a u v : Text} {c' : Cursor}
    (hfuel : u.length < fuel)
    (hfail : ∀ u₁ x u₂, u = u₁ ++ x :: u₂ → p.run (.between (a ++ u₁) (x :: u₂ ++ v)) some = none)
    (h : p.run (.between (a ++ u) v) some = some c') :
    p.scan fuel (.between a (u ++ v)) = some (toMatch (.between (a ++ u) v) c') := by
  induction fuel generalizing a u with
  | zero => cases hfuel
  | succ fuel ih =>
    cases u with
    | nil =>
      rw [List.append_nil] at h
      simp only [scan, at?, List.nil_append, List.append_nil, h, Option.map_some]
    | cons x u =>
      have hhere : p.at? (.between a (x :: u ++ v)) = none := by
        have := hfail [] x u rfl
        rw [List.append_nil] at this
        rw [at?, this, Option.map_none]
      have hnext : (Cursor.between a (x :: u ++ v)).step? =
          some (x, .between (a ++ [x]) (u ++ v)) := by
        simp [Cursor.step?, Cursor.between]
      have hassoc : a ++ [x] ++ u = a ++ x :: u := by simp
      simp only [scan, hhere, hnext]
      rw [ih (Nat.lt_of_succ_lt_succ hfuel) (fun u₁ y u₂ hu => ?_) (hassoc ▸ h), hassoc]
      have := hfail (x :: u₁) y u₂ (by rw [hu, List.cons_append])
      rwa [List.append_assoc]

/-- A search fails if the pattern does nowhere behind its start. -/
theorem findFrom?_eq_none {p : Pattern} {a b : Text}
    (h : ∀ u v, b = u ++ v → p.run (.between (a ++ u) v) some = none) :
    p.findFrom? a.length (a ++ b) = none := by
  rw [findFrom?, start_advance]
  exact scan_eq_none _ h

theorem findFrom?_eq_none_of_forall {p : Pattern} {t : Text}
    (h : ∀ u v, t = u ++ v → p.run (.between u v) some = none) (pos : ℕ) :
    p.findFrom? pos t = none := by
  rcases Nat.le_total pos t.length with hpos | hpos
  · have hlen : (t.take pos).length = pos := List.length_take_of_le hpos
    have hsplit := List.take_append_drop pos t
    have hnone := findFrom?_eq_none (p := p) (a := t.take pos) (b := t.drop pos)
      fun u v huv => h _ _ (by rw [List.append_assoc, ← huv, hsplit])
    rwa [hlen, hsplit] at hnone
  · rw [findFrom?, advance_of_length_le hpos]
    refine scan_eq_none _ fun u v huv => ?_
    obtain ⟨rfl, rfl⟩ := List.nil_eq_append_iff.1 huv
    exact h _ _ (by rw [List.append_nil, List.append_nil])

/-- A search gives the first match. -/
theorem findFrom?_eq_some {p : Pattern} {a u v : Text} {c' : Cursor}
    (hfail : ∀ u₁ x u₂, u = u₁ ++ x :: u₂ → p.run (.between (a ++ u₁) (x :: u₂ ++ v)) some = none)
    (h : p.run (.between (a ++ u) v) some = some c') :
    p.findFrom? a.length (a ++ (u ++ v)) = some (toMatch (.between (a ++ u) v) c') := by
  rw [findFrom?, start_advance]
  refine scan_eq_some ?_ hfail h
  simp only [List.length_append]
  omega

/-- What stands behind a match is an end of the text. -/
theorem after_suffix {p : Pattern} {pos : ℕ} {t : Text} {m : Match}
    (h : p.findFrom? pos t = some m) : m.after <:+ t := by
  have hadvance : ∀ (n : ℕ) (c : Cursor), (c.advance n).rest <:+ c.rest := fun n => by
    induction n with
    | zero => exact fun c => List.suffix_refl _
    | succ n ih =>
      intro c
      simp only [Cursor.advance]
      split
      · rename_i x c' hc
        obtain ⟨xs, hrest, rfl⟩ := Cursor.step?_eq_some.1 hc
        rw [hrest]
        exact (ih _).trans (List.suffix_cons x xs)
      · exact List.suffix_refl _
  have hscan : ∀ (fuel : ℕ) (c : Cursor), p.scan fuel c = some m → m.after <:+ c.rest :=
    fun fuel => by
      induction fuel with
      | zero => exact fun c h => by cases h
      | succ fuel ih =>
        intro c h
        simp only [scan] at h
        split at h
        · rename_i m' hm
          cases h
          obtain ⟨d, hrun, rfl⟩ := Option.map_eq_some_iff.1 hm
          obtain ⟨c', ⟨u, hrest, -⟩, -, heq⟩ := run_sound p hrun
          obtain rfl := Option.some.inj heq
          exact ⟨u, hrest.symm⟩
        · split at h
          · rename_i x c' hc
            obtain ⟨xs, hrest, rfl⟩ := Cursor.step?_eq_some.1 hc
            rw [hrest]
            exact (ih _ h).trans (List.suffix_cons x xs)
          · cases h
  exact (hscan _ _ h).trans (hadvance _ _)

/-! ### Repetition up to a word -/

theorem run_seq (a b : Pattern) (c : Cursor) (k : Cursor → Option Cursor) :
    (seq a b).run c k = a.run c fun c' => b.run c' k := rfl

theorem run_alt_of_eq_none {a : Pattern} (b : Pattern) {c : Cursor} {k : Cursor → Option Cursor}
    (h : a.run c k = none) : (alt a b).run c k = b.run c k := by
  rw [run, h]
  rfl

theorem run_alt_of_eq_some {a : Pattern} (b : Pattern) {c d : Cursor} {k : Cursor → Option Cursor}
    (h : a.run c k = some d) : (alt a b).run c k = some d := by
  rw [run, h]
  rfl

theorem run_text (w : Text) {a v : Text} (k : Cursor → Option Cursor) :
    (text w).run (.between a (w ++ v)) k = k (.between (a ++ w) v) := by
  have hpass : (Cursor.between a (w ++ v)).pass? w = some (.between (a ++ w) v) :=
    Cursor.pass?_eq_some.2 ⟨v, rfl, by simp [Cursor.between]⟩
  simp only [run, hpass]

/-- Any character, unless a pattern matches there. -/
def unlessAt (stop : Pattern) : Pattern := .seq (.ahead false stop) any

theorem run_unlessAt_of_match {stop : Pattern} {c : Cursor} (h : (stop.run c some).isSome)
    (k : Cursor → Option Cursor) : (unlessAt stop).run c k = none := by
  obtain ⟨c', hc'⟩ := Option.isSome_iff_exists.1 h
  simp only [unlessAt, run, hc']

theorem run_unlessAt {stop : Pattern} {a t : Text} {x : Char}
    (h : stop.run (.between a (x :: t)) some = none) (k : Cursor → Option Cursor) :
    (unlessAt stop).run (.between a (x :: t)) k = k (.between (a ++ [x]) t) := by
  have hnext : (Cursor.between a (x :: t)).step? = some (x, .between (a ++ [x]) t) := by
    simp [Cursor.step?, Cursor.between]
  simp only [unlessAt, any, run, h, hnext, if_true]

/-- A repetition that stops where a pattern matches goes on to the first such place. -/
theorem run_star_unlessAt {stop : Pattern} {a u v : Text} {k : Cursor → Option Cursor} {d : Cursor}
    (hu : ∀ u₁ x u₂, u = u₁ ++ x :: u₂ → stop.run (.between (a ++ u₁) (x :: u₂ ++ v)) some = none)
    (hv : (stop.run (.between (a ++ u) v) some).isSome) (hk : k (.between (a ++ u) v) = some d) :
    (star (unlessAt stop)).run (.between a (u ++ v)) k = some d := by
  have hgen : ∀ fuel : Text, u.length < fuel.length →
      rounds true (fun c k => (unlessAt stop).run c k) k fuel 0 none (.between a (u ++ v)) =
        some d := by
    induction u generalizing a with
    | nil =>
      intro fuel hfuel
      rcases fuel with _ | ⟨y, fuel⟩
      · cases hfuel
      · rw [List.append_nil] at hv hk
        simp only [rounds, List.nil_append, run_unlessAt_of_match hv, reduceCtorEq, if_false,
          if_true, hk]
        rfl
    | cons x u ih =>
      intro fuel hfuel
      rcases fuel with _ | ⟨y, fuel⟩
      · cases hfuel
      · have hhere : stop.run (.between a (x :: (u ++ v))) some = none := by
          have := hu [] x u rfl
          rwa [List.append_nil] at this
        have hassoc : a ++ [x] ++ u = a ++ x :: u := by simp
        have hpos : (Cursor.between (a ++ [x]) (u ++ v)).pos ≠
            (Cursor.between a (x :: (u ++ v))).pos := by
          simp [Cursor.between]
        have hrest := ih (a := a ++ [x]) (fun u₁ z u₂ hsplit => by
          have := hu (x :: u₁) z u₂ (by rw [hsplit, List.cons_append])
          rwa [List.append_assoc]) (hassoc ▸ hv) (hassoc ▸ hk) fuel (Nat.lt_of_succ_lt_succ hfuel)
        simp only [rounds, List.cons_append, run_unlessAt hhere, reduceCtorEq, if_false, if_true,
          if_neg hpos, Option.map_none, Nat.zero_sub, hrest]
        rfl
  refine hgen _ ?_
  show u.length < (u ++ v).length + 1
  rw [List.length_append]
  omega

end Pattern

end MathPage
