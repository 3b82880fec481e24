import Mathlib.Tactic
import MathPage.Conversion.Drive

/-!
# What a write changes

* `Drive.get?_put_self`, `Drive.get?_put_of_ne` – what exists at a place after a node was put there,
  and at any other place;
* `Drive.write_eq_ok` – a write that succeeds stores all bytes at its place and touches no other;
* `Drive.write_eq_error_congr` – whether a write fails, and how, does not depend on the bytes;
* `Drive.write_eq_error`, `Drive.readText_eq_error` – what writing and reading can fail for;
* `Drive.write_write` – the same write once more changes nothing.
-/

namespace MathPage.Drive

/-! ### Nodes -/

/-- A node is found at the place that it was put to, and all other places keep theirs. -/
theorem find?_putNode (p q : Place) (n : Node) (nodes : List (Place × Node)) :
    ((putNode p n nodes).find? (·.1 == q)).map (·.2) =
      if p = q then some n else (nodes.find? (·.1 == q)).map (·.2) := by
  induction nodes with
  | nil => by_cases hpq : p = q <;> simp [putNode, hpq]
  | cons node nodes ih =>
    obtain ⟨r, m⟩ := node
    by_cases hrp : r = p
    · subst hrp
      by_cases hrq : r = q <;> simp [putNode, hrq]
    · rw [putNode, if_neg hrp]
      by_cases hrq : r = q
      · subst hrq
        simp [Ne.symm hrp]
      · simpa [hrq] using ih

theorem get?_put_self {d : Drive} {p : Place} {n : Node} (hp : p ≠ []) :
    (d.put p n).get? p = some n := by
  rw [get?, if_neg (by simpa using hp), put, find?_putNode, if_pos rfl]

theorem get?_put_of_ne {d : Drive} {p q : Place} {n : Node} (hpq : q ≠ p) :
    (d.put p n).get? q = d.get? q := by
  rw [get?, get?]
  split
  · rfl
  · rw [put, find?_putNode, if_neg (Ne.symm hpq)]

/-- A node that was put stays where it is when it is put again. -/
theorem putNode_putNode (p : Place) (n : Node) (nodes : List (Place × Node)) :
    putNode p n (putNode p n nodes) = putNode p n nodes := by
  induction nodes with
  | nil => simp [putNode]
  | cons node nodes ih =>
    by_cases hp : node.1 = p
    · simp [putNode, hp]
    · simp [putNode, hp, ih]

/-- A node that is put at the end of a way leaves the way to it open. -/
theorem follow_put {d : Drive} {n : Node} (here rest : Place) (hrest : rest ≠ []) {m : Option Node}
    (h : d.follow here rest = .ok m) : (d.put (here ++ rest) n).follow here rest = .ok (some n) := by
  induction rest generalizing here with
  | nil => exact absurd rfl hrest
  | cons name rest ih =>
    cases rest with
    | nil =>
      simp only [follow] at h ⊢
      split at h
      · cases h
      · rename_i hname
        rw [if_neg hname, get?_put_self (by simp)]
    | cons name' rest =>
      have hbefore : here ++ [name] ≠ here ++ name :: name' :: rest := by simp
      simp only [follow] at h ⊢
      split at h
      · cases h
      · rename_i hname
        rw [if_neg hname, get?_put_of_ne hbefore]
        split at h
        · rename_i hfolder
          have hway := ih (here ++ [name]) (by simp) h
          rw [List.append_assoc, List.singleton_append] at hway
          simp only [hway]
        · cases h
        · cases h

/-! ### Writing -/

/-- Nothing can be written to the root. -/
theorem write_nil (d : Drive) (bytes : List UInt8) :
    d.write [] bytes = .error (.file .isFolder []) := rfl

/-- **A write stores all bytes at its place and touches no other place**, if it succeeds. -/
theorem write_eq_ok {d d' : Drive} {p : Place} {bytes : List UInt8}
    (h : d.write p bytes = .ok d') :
    d'.get? p = some (.file bytes) ∧ ∀ q, q ≠ p → d'.get? q = d.get? q := by
  have hp : p ≠ [] := by
    rintro rfl
    rw [write_nil] at h
    cases h
  have hput : d' = d.put p (.file bytes) := by
    unfold write at h
    split at h
    · cases h
    · exact (Except.ok.inj h).symm
    · cases h
  subst hput
  exact ⟨get?_put_self hp, fun q hq => get?_put_of_ne hq⟩

/-- The same write once more succeeds as well and changes nothing. -/
theorem write_write {d d' : Drive} {p : Place} {bytes : List UInt8}
    (h : d.write p bytes = .ok d') : d'.write p bytes = .ok d' := by
  have hp : p ≠ [] := by
    rintro rfl
    rw [write_nil] at h
    cases h
  unfold write at h
  cases hopen : d.open? p with
  | error f =>
    rw [hopen] at h
    cases h
  | ok m =>
    have hput : d' = d.put p (.file bytes) := by
      rw [hopen] at h
      split at h
      · cases h
      · exact (Except.ok.inj h).symm
      · cases h
    have hagain : d'.open? p = .ok (some (.file bytes)) := by
      rw [hput]
      exact follow_put [] p hp hopen
    rw [write, hagain, hput]
    simp only [put, putNode_putNode]

/-- A write fails for a fault of the files. -/
theorem write_eq_error {d : Drive} {p : Place} {bytes : List UInt8} {f : Failure}
    (h : d.write p bytes = .error f) : ∃ fault, f = .file fault p := by
  unfold write at h
  split at h
  · exact ⟨_, (Except.error.inj h).symm⟩
  · cases h
  · exact ⟨_, (Except.error.inj h).symm⟩

/-- Reading fails for a fault of the files, or because the bytes encode no text. -/
theorem readText_eq_error {d : Drive} {p : Place} {f : Failure} (h : d.readText p = .error f) :
    (∃ fault, f = .file fault p) ∨ ∃ fault, f = .encoding fault := by
  unfold readText at h
  cases hread : d.read p with
  | error f' =>
    simp only [hread, bind, Except.bind] at h
    obtain rfl := Except.error.inj h
    unfold read at hread
    split at hread
    · cases hread
    all_goals exact Or.inl ⟨_, (Except.error.inj hread).symm⟩
  | ok bytes =>
    cases hdecode : Utf8.decode bytes with
    | error fault =>
      simp only [hread, hdecode, bind, Except.bind, Except.mapError] at h
      exact Or.inr ⟨fault, (Except.error.inj h).symm⟩
    | ok t =>
      simp only [hread, hdecode, bind, Except.bind, Except.mapError] at h
      cases h

/-- What is written does not matter to a write that fails. -/
theorem write_eq_error_congr {d : Drive} {p : Place} {bytes : List UInt8} {f : Failure}
    (h : d.write p bytes = .error f) (bytes' : List UInt8) : d.write p bytes' = .error f := by
  unfold write at h ⊢
  split at h
  · exact h
  · cases h
  · exact h

end MathPage.Drive
