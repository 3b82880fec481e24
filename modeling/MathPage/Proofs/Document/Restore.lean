import MathPage.Proofs.Document.Placeholder
import MathPage.Proofs.Text.Occurrence

/-!
# Written documents with their pieces

* `Stash.slot` – the written paragraph of a placeholder;
* `Stash.Slotted` – a text with slots of pieces that stand on lines of their own, and what the text is
  when the pieces are put back;
* `Stash.Slotted.finish` – the pieces are put back in the place of their slots.
-/

namespace MathPage

theorem Text.replace_eq_self {p t : Text} (h : ¬ p <:+: t) (new : Text) : Text.replace p new t = t := by
  have hsplit : Text.split p t = [t] := by
    unfold Text.split
    cases t.length with
    | zero => rfl
    | succ n => rw [Text.splitFuel, Text.cutAt?_eq_none_iff.2 h]
  rw [Text.replace, hsplit]
  rfl

namespace Stash

/-- The written paragraph of a placeholder. -/
def slot (n : ℕ) : Text := "<p>".toList ++ (placeholder n ++ "</p>".toList)

variable {s : Stash} {again : Text → Text}

/-! ### Placeholders at the start of a text -/

theorem leadingParagraph?_slot (n : ℕ) (t : Text) : leadingParagraph? (slot n ++ t) = some (n, t) := by
  have hsplit : slot n ++ t = "<p>".toList ++ (placeholder n ++ ("</p>".toList ++ t)) := by
    simp [slot]
  rw [leadingParagraph?, hsplit, Text.after?_append]
  simp only [leading?_placeholder, Text.after?_append, Option.map_some]

theorem leadingParagraph?_eq_none {t : Text} (h : ¬ "<p>".toList ++ [opening] <+: t) :
    leadingParagraph? t = none := by
  rw [leadingParagraph?]
  cases hafter : Text.after? "<p>".toList t with
  | none => rfl
  | some u =>
    have hnone : leading? u = none := by
      rcases u with _ | ⟨c, v⟩
      · exact leading?_nil
      · refine leading?_of_ne (fun hc => h ⟨v, ?_⟩) v
        rw [Text.eq_append_of_after? hafter, hc]
        simp
    simp only [hnone]

/-! ### Putting pieces back -/

theorem restoreFuel_eq_self {t : Text} (h : opening ∉ t) (fuel : ℕ) :
    restoreFuel s again fuel t = t := by
  induction t generalizing fuel with
  | nil => cases fuel <;> rfl
  | cons c t ih =>
    cases fuel with
    | zero => rfl
    | succ fuel =>
      have hparagraph : leadingParagraph? (c :: t) = none := leadingParagraph?_eq_none fun hstart =>
        h (hstart.subset (by simp))
      have hleading : leading? (c :: t) = none :=
        leading?_of_ne (List.ne_of_not_mem_cons h).symm t
      rw [restoreFuel, hparagraph, hleading, ih (List.not_mem_of_not_mem_cons h)]

theorem restoreLevels_eq_self {t : Text} (h : opening ∉ t) (depth : ℕ) :
    restoreLevels s depth t = t := by
  cases depth with
  | zero => rfl
  | succ depth => exact restoreFuel_eq_self h _

/-- In front of a slot no other one begins. -/
theorem not_prefix_of_slot {u : Text} {c : Char} (h : opening ∉ c :: u) (t : Text) :
    ¬ "<p>".toList ++ [opening] <+: c :: (u ++ '<' :: 'p' :: '>' :: t) := by
  rintro ⟨v, hv⟩
  rcases u with _ | ⟨d, _ | ⟨e, _ | ⟨f, u⟩⟩⟩ <;> simp [opening] at hv h
  · exact h.2.2.2.1 hv.2.2.2.1

/-- A slot at the start of a text. -/
theorem restoreFuel_of_leading {c : Char} {t rest html : Text} {n : ℕ}
    (h : leadingParagraph? (c :: t) = some (n, rest)) (hn : s.entries[n]? = some (.html html))
    (hblock : isBlockHtml html = true) (fuel : ℕ) :
    restoreFuel s again (fuel + 1) (c :: t) = again html ++ restoreFuel s again fuel rest := by
  have hwritten : Entry.written (.html html) = html := rfl
  simp only [restoreFuel, h, hn, hwritten, hblock, if_true]

theorem slot_append (n : ℕ) (t : Text) :
    slot n ++ t = '<' :: 'p' :: '>' :: (placeholder n ++ ("</p>".toList ++ t)) := by
  simp [slot]

/-- **A piece is put back in the place of its slot.** -/
theorem restoreFuel_slot (again : Text → Text) {u t html : Text} {n : ℕ} (hu : opening ∉ u)
    (hn : s.entries[n]? = some (.html html)) (hblock : isBlockHtml html = true) {fuel : ℕ}
    (hfuel : (u ++ (slot n ++ t)).length < fuel) : ∃ fuel', t.length < fuel' ∧
      restoreFuel s again fuel (u ++ (slot n ++ t)) =
        u ++ (again html ++ restoreFuel s again fuel' t) := by
  induction u generalizing fuel with
  | nil =>
    obtain ⟨fuel, rfl⟩ := Nat.exists_eq_succ_of_ne_zero (Nat.ne_zero_of_lt hfuel)
    have hlead := leadingParagraph?_slot n t
    rw [List.nil_append, slot_append] at hfuel
    rw [slot_append] at hlead
    refine ⟨fuel, ?_, ?_⟩
    · simp only [List.length_cons, List.length_append] at hfuel
      omega
    · rw [List.nil_append, List.nil_append, slot_append, restoreFuel_of_leading hlead hn hblock]
  | cons c u ih =>
    obtain ⟨fuel, rfl⟩ := Nat.exists_eq_succ_of_ne_zero (Nat.ne_zero_of_lt hfuel)
    obtain ⟨fuel', hfuel', heq⟩ := ih (List.not_mem_of_not_mem_cons hu)
      (Nat.lt_of_succ_lt_succ hfuel)
    refine ⟨fuel', hfuel', ?_⟩
    have hparagraph : leadingParagraph? (c :: (u ++ (slot n ++ t))) = none :=
      leadingParagraph?_eq_none (slot_append n t ▸ not_prefix_of_slot hu _)
    have hleading : leading? (c :: (u ++ (slot n ++ t))) = none :=
      leading?_of_ne (List.ne_of_not_mem_cons hu).symm _
    rw [List.cons_append, List.cons_append, restoreFuel, hparagraph, hleading, heq]

/-! ### Texts with slots -/

/-- A piece that stands on lines of its own and holds no placeholder. -/
structure IsPiece (html : Text) : Prop where
  block : isBlockHtml html = true
  opening_not_mem : opening ∉ html

/-- A text with slots, and what it is when the pieces are put back. -/
inductive Slotted (s : Stash) : Text → Text → Prop where
  | last {t : Text} (ht : opening ∉ t) : Slotted s t t
  | slot {u html t t' : Text} {n : ℕ} (hu : opening ∉ u) (hn : s.entries[n]? = some (.html html))
    (hhtml : IsPiece html) (hrest : Slotted s t t') : Slotted s (u ++ (slot n ++ t)) (u ++ (html ++ t'))

theorem Slotted.not_mem {t t' : Text} (h : Slotted s t t') : opening ∉ t' := by
  induction h with
  | last ht => exact ht
  | slot hu _ hhtml _ ih => simp [hu, hhtml.opening_not_mem, ih]

theorem Slotted.restoreFuel {t t' : Text} (h : Slotted s t t') (depth : ℕ) {fuel : ℕ}
    (hfuel : t.length < fuel) : restoreFuel s (restoreLevels s depth) fuel t = t' := by
  induction h generalizing fuel with
  | last ht => exact restoreFuel_eq_self ht fuel
  | slot hu hn hhtml _ ih =>
    obtain ⟨fuel', hfuel', heq⟩ :=
      restoreFuel_slot (restoreLevels s depth) hu hn hhtml.block hfuel
    rw [heq, ih hfuel', restoreLevels_eq_self hhtml.opening_not_mem]

/-- **The pieces are put back in the place of their slots.** -/
theorem Slotted.finish {t t' : Text} (h : Slotted s t t') : s.finish t = t' := by
  have hrestore : s.restore t = t' := h.restoreFuel _ (Nat.lt_succ_self _)
  rw [Stash.finish, hrestore, Text.replace_eq_self]
  exact fun hamp => h.not_mem (hamp.subset List.mem_cons_self)

end Stash

end MathPage
