import MathPage.Equation.Marker
import MathPage.Proofs.Equation.Host

/-!
# Markers

* `Marker.not_isStart_of_isEnd` – no text is both a start marker and an end marker;
* `Marker.read_eq_ok`, `Marker.read_eq_error` – what reading a start marker does;
* `Marker.attributes_eq_error`, `Marker.exists_read_eq_ok` – why it fails, and when it does not.
-/

namespace MathPage.Marker

/-! ### The two kinds of markers -/

theorem startsHere_cons_of_ne {c : Char} (hc : c ≠ '<') (t : Text) :
    startsHere (c :: t) = false := by
  have hnone : Text.after? opener (c :: t) = none := if_neg (Ne.symm hc)
  rw [startsHere, hnone]

/-- A start marker opens with an angle bracket. -/
theorem isStart_append_of_forall_ne {a : Text} (ha : ∀ c ∈ a, c ≠ '<') (t : Text) :
    isStart (a ++ t) = isStart t := by
  induction a with
  | nil => rfl
  | cons c a ih =>
    rw [List.cons_append, isStart, startsHere_cons_of_ne (ha c (by simp)), Bool.false_or]
    exact ih fun d hd => ha d (by simp [hd])

theorem isStart_eq_false_of_forall_ne {t : Text} (ht : ∀ c ∈ t, c ≠ '<') : isStart t = false := by
  have h := isStart_append_of_forall_ne ht []
  rwa [List.append_nil] at h

theorem ne_of_isBlank {c d : Char} (hc : Text.isBlank c = true) (hd : Text.isBlank d = false) :
    c ≠ d := fun h => by simp [h, hd] at hc

/-- What follows an end marker decides alone whether there is a start marker. -/
theorem isStart_stop_append (b : Text) : isStart (stop ++ b) = isStart b := by
  have hcut : stop ++ b = '<' :: ("!-- ".toList ++ '<' :: ("/equation> -->".toList ++ b)) := rfl
  -- the opening of a start marker fails at both of the brackets that open something
  have houter : startsHere ('<' :: ("!-- ".toList ++ '<' :: ("/equation> -->".toList ++ b))) =
      false := rfl
  have hinner : startsHere ('<' :: ("/equation> -->".toList ++ b)) = false := rfl
  rw [hcut, isStart, houter, Bool.false_or, isStart_append_of_forall_ne (by simp), isStart,
    hinner, Bool.false_or, isStart_append_of_forall_ne (by simp)]

/-- **No text is both a start marker and an end marker.** -/
theorem not_isStart_of_isEnd {t : Text} (h : isEnd t = true) : isStart t = false := by
  obtain ⟨a, b, ha, hb, ht⟩ := Text.exists_eq_append_strip t
  have hstop : Text.strip t = stop := by simpa [isEnd] using h
  have hne : ∀ {u : Text}, (∀ c ∈ u, Text.isBlank c = true) → ∀ c ∈ u, c ≠ '<' :=
    fun hu c hc => ne_of_isBlank (hu c hc) (by decide)
  rw [ht, hstop, List.append_assoc, isStart_append_of_forall_ne (hne ha), isStart_stop_append]
  exact isStart_eq_false_of_forall_ne (hne hb)

/-! ### Reading a start marker -/

variable {ω : Type} {h : Host ω}

/-- Reading a marker gives its attributes. -/
theorem read_computes (h : Host ω) (t : Text) : h.Computes (read h t) (attributes t) := by
  rcases ha : attributes t with f | e <;> simp only [read, ha]
  · exact .after_log fun _ => Host.computes_fail f
  · exact .after_log fun _ => .after_log fun _ => .after_log fun _ => Host.computes_pure e

theorem read_eq_ok {t : Text} {w v : ω} {e : Equation} (hr : read h t w = (.ok e, v)) :
    attributes t = .ok e ∧ h.Logged w v := (read_computes h t).of_ok hr

/-- A marker is not read if an attribute cannot be read or the logger refuses a message. -/
theorem read_eq_error {t : Text} {w v : ω} {f : Failure} (hr : read h t w = (.error f, v)) :
    (attributes t = .error f ∨ h.Refuses f) ∧ h.Logged w v := (read_computes h t).of_error hr

/-- What is true of all failures of two steps is true of the failures of both, one after the other. -/
theorem forall_error_bind {α β : Type} {P : Failure → Prop} {x : Except Failure α}
    {k : α → Except Failure β} (hx : ∀ f, x = .error f → P f) (hk : ∀ a f, k a = .error f → P f) :
    ∀ f, (x >>= k) = .error f → P f := by
  intro f hf
  cases x with
  | error f' => exact hx f (by rw [Except.error.inj hf])
  | ok a => exact hk a f hf

/-- What keeps a marker from being read names an attribute and the marker. -/
theorem attributes_eq_error {t : Text} :
    ∀ f, attributes t = .error f → ∃ name fault, f = .marker name t fault := by
  have hvalue : ∀ name f, value name t = .error f → ∃ name fault, f = .marker name t fault := by
    intro name f hf
    unfold value at hf
    cases hs : scan name t with
    | error fault =>
      rw [hs] at hf
      exact ⟨name, fault, (Except.error.inj hf).symm⟩
    | ok v =>
      rw [hs] at hf
      cases hf
  have hrequired : ∀ name f, required name t = .error f →
      ∃ name fault, f = .marker name t fault := by
    intro name f hf
    unfold required at hf
    split at hf
    · exact ⟨name, .empty, (Except.error.inj hf).symm⟩
    · exact hvalue name f hf
  refine forall_error_bind (hrequired _) fun label => forall_error_bind (hvalue _) fun alt =>
    forall_error_bind (hrequired _) fun raw f hf => ?_
  cases hf

/-- A marker with its attributes is read if the logger takes every message. -/
theorem exists_read_eq_ok (hq : h.NeverRefuses) {t : Text} {e : Equation}
    (ha : attributes t = .ok e) (w : ω) : ∃ v, read h t w = (.ok e, v) := by
  obtain ⟨v, hv, -⟩ := (read_computes h t).exists_eq hq w
  exact ⟨v, ha ▸ hv⟩

theorem read_over {ω' : Type} {π : ω' → ω} {h' : Host ω'} (hπ : Host.Over π h' h) (t : Text) :
    Action.Over π (read h' t) (read h t) := by
  rcases ha : attributes t with f | e <;> simp only [read, ha]
  · exact (hπ.2 _ _).bind fun _ => Action.over_fail _
  · exact (hπ.2 _ _).bind fun _ => (hπ.2 _ _).bind fun _ => (hπ.2 _ _).bind fun _ =>
      Action.over_result _

end MathPage.Marker
