import MathPage.Proofs.Text.Basic

/-!
# First occurrences

* `FirstAt` – the parts of a text before and behind the first occurrence of another one;
* `cutAt?_eq_some_iff`, `cutAt?_eq_none_iff` – a text is cut at the first occurrence, and nowhere if
  there is none.
-/

namespace MathPage.Text

/-- In `t` the text `a` stands before the first occurrence of `p`, and `b` behind it. -/
def FirstAt (p t a b : Text) : Prop :=
  t = a ++ (p ++ b) ∧ ∀ a' b', t = a' ++ (p ++ b') → a.length ≤ a'.length

theorem FirstAt.occurs {p t a b : Text} (h : FirstAt p t a b) : p <:+: t :=
  ⟨a, b, by rw [h.1, List.append_assoc]⟩

/-- There is one first occurrence only. -/
theorem FirstAt.unique {p t a b a' b' : Text} (h : FirstAt p t a b) (h' : FirstAt p t a' b') :
    a = a' ∧ b = b' := by
  have hlen : a.length = a'.length := le_antisymm (h.2 a' b' h'.1) (h'.2 a b h.1)
  obtain ⟨rfl, hrest⟩ := List.append_inj (h.1.symm.trans h'.1) hlen
  exact ⟨rfl, List.append_cancel_left hrest⟩

/-- A text is cut nowhere later than at an occurrence. -/
theorem exists_cutAt? (p a b : Text) :
    ∃ a₁ b₁, cutAt? p (a ++ (p ++ b)) = some (a₁, b₁) ∧ a₁.length ≤ a.length := by
  induction a with
  | nil =>
    rcases hpb : p ++ b with _ | ⟨c, t⟩
    · obtain ⟨rfl, -⟩ := List.append_eq_nil_iff.1 hpb
      exact ⟨[], [], rfl, le_rfl⟩
    · have hafter : after? p (c :: t) = some b := hpb ▸ after?_append p b
      refine ⟨[], b, ?_, le_rfl⟩
      rw [List.nil_append, cutAt?, hafter]
  | cons c a ih =>
    obtain ⟨a₁, b₁, hcut, hle⟩ := ih
    rw [List.cons_append, cutAt?]
    cases hafter : after? p (c :: (a ++ (p ++ b))) with
    | some rest => exact ⟨[], rest, rfl, Nat.zero_le _⟩
    | none =>
      refine ⟨c :: a₁, b₁, ?_, Nat.succ_le_succ hle⟩
      simp only [hcut, Option.map_some]

theorem firstAt_of_cutAt? {p t a b : Text} (h : cutAt? p t = some (a, b)) : FirstAt p t a b := by
  refine ⟨eq_append_of_cutAt? h, ?_⟩
  rintro a' b' rfl
  obtain ⟨a₁, b₁, hcut, hle⟩ := exists_cutAt? p a' b'
  rw [h] at hcut
  obtain ⟨rfl, rfl⟩ := Prod.mk.inj (Option.some.inj hcut)
  exact hle

/-- **A text is cut at the first occurrence.** -/
theorem cutAt?_eq_some_iff {p t a b : Text} : cutAt? p t = some (a, b) ↔ FirstAt p t a b := by
  refine ⟨firstAt_of_cutAt?, fun h => ?_⟩
  obtain ⟨a₁, b₁, hcut, -⟩ := exists_cutAt? p a b
  rw [← h.1] at hcut
  obtain ⟨rfl, rfl⟩ := (firstAt_of_cutAt? hcut).unique h
  exact hcut

theorem cutAt?_eq_none_iff {p t : Text} : cutAt? p t = none ↔ ¬ p <:+: t := by
  constructor
  · rintro hnone ⟨a, b, rfl⟩
    obtain ⟨a₁, b₁, hcut, -⟩ := exists_cutAt? p a b
    rw [List.append_assoc, hcut] at hnone
    cases hnone
  · intro hno
    cases hcut : cutAt? p t with
    | none => rfl
    | some ab => exact absurd (firstAt_of_cutAt? hcut).occurs hno

/-- A text is cut at a character if it holds this character. -/
theorem cutAt?_singleton_eq_none_iff {c : Char} {t : Text} : cutAt? [c] t = none ↔ c ∉ t := by
  rw [cutAt?_eq_none_iff, List.singleton_infix_iff]

/-- Where a text is cut at a character, that character does not stand in front. -/
theorem cutAt?_singleton_eq_some_iff {c : Char} {t a b : Text} :
    cutAt? [c] t = some (a, b) ↔ t = a ++ c :: b ∧ c ∉ a := by
  constructor
  · intro hcut
    refine ⟨eq_append_of_cutAt? hcut, fun hmem => ?_⟩
    obtain ⟨u, v, rfl⟩ := List.append_of_mem hmem
    have hlen := (firstAt_of_cutAt? hcut).2 u (v ++ c :: b) (by
      rw [eq_append_of_cutAt? hcut]
      simp)
    rw [List.length_append, List.length_cons] at hlen
    omega
  · rintro ⟨rfl, hc⟩
    exact cutAt?_singleton hc b

end MathPage.Text
