import MathPage.Markdown.Inline.Nodes
import MathPage.Proofs.Document.Stash

/-!
# Placeholders of inline nodes

* `Escaped.read_write`, `Nodes.pieces_placeholder` – a placeholder is read as what it was written
  for, whatever follows it;
* `Escaped.read_cons`, `Nodes.pieces_cons` – any other character stands for itself;
* `Nodes.source_placeholder`, `Nodes.resolve_placeholder` – the markup and the text of a placeholder
  for a text;
* `Nodes.resolve_eq_self` – any other text stands for itself.
-/

namespace MathPage.Markdown.Inline

/-! ### Numbers between control characters -/

theorem leading?_of_digits {ds t : Text} (hne : ds ≠ []) (hds : ∀ c ∈ ds, Text.isDigit c = true) :
    Escaped.leading? (Stash.opening :: (ds ++ Stash.closing :: t)) =
      some (Text.ofDigits 0 ds, t) := by
  have hclosing : Text.isDigit Stash.closing = false := rfl
  have htake : (ds ++ Stash.closing :: t).takeWhile Text.isDigit = ds := by
    rw [List.takeWhile_append_of_pos hds, List.takeWhile_cons_of_neg (by simp [hclosing]),
      List.append_nil]
  have hdecimal : Text.ofDecimal? ds = some (Text.ofDigits 0 ds) :=
    if_pos ⟨hne, List.all_eq_true.2 hds⟩
  simp only [Escaped.leading?, bne_self_eq_false, Bool.false_eq_true, if_false, htake,
    List.drop_left, if_true, hdecimal, Option.map_some]

namespace Escaped

theorem leading?_write (c : Char) (t : Text) : leading? (write c ++ t) = some (c.toNat, t) := by
  have h := leading?_of_digits (t := t) (Text.decimal_ne_nil c.toNat)
    fun _ hd => Text.isDigit_of_mem_decimal hd
  rw [Text.ofDigits_decimal] at h
  rw [write]
  simpa using h

theorem leading?_of_ne {c : Char} (hc : c ≠ Stash.opening) (t : Text) :
    leading? (c :: t) = none := by
  simp [leading?, hc]

/-- What is read is not empty. -/
theorem length_of_leading? {t r : Text} {n : ℕ} (h : leading? t = some (n, r)) :
    r.length < t.length := by
  unfold leading? at h
  split at h
  · cases h
  · rename_i c t
    split at h
    · cases h
    · simp only at h
      split at h
      · rename_i d rest hdrop
        split at h
        · obtain ⟨_, -, heq⟩ := Option.map_eq_some_iff.1 h
          obtain ⟨-, rfl⟩ := Prod.mk.inj heq
          have hlength := congrArg List.length hdrop
          simp only [List.length_drop, List.length_cons] at hlength ⊢
          omega
        · cases h
      · cases h

theorem readFuel_eq {fuel : ℕ} {t : Text} (h : t.length ≤ fuel) : readFuel fuel t = read t :=
  Text.eq_of_fuel (f := readFuel) (fun n => by cases n <;> rfl) (fun n m c t ih => by
    simp only [readFuel]
    split
    · rename_i hr
      rw [ih _ (length_of_leading? hr)]
    · rw [ih _ (Nat.lt_succ_self _)]) h le_rfl

@[simp] theorem read_nil : read [] = [] := rfl

theorem read_cons {c : Char} (hc : c ≠ Stash.opening) (t : Text) : read (c :: t) = c :: read t := by
  show readFuel (t.length + 1) (c :: t) = _
  rw [readFuel, leading?_of_ne hc]
  rfl

theorem read_write (c : Char) (t : Text) : read (write c ++ t) = c :: read t := by
  have hne : write c ++ t = Stash.opening :: (Text.decimal c.toNat ++ [Stash.closing] ++ t) := rfl
  have hlead := leading?_write c t
  rw [hne] at hlead ⊢
  show readFuel ((Text.decimal c.toNat ++ [Stash.closing] ++ t).length + 1) _ = _
  rw [readFuel, hlead]
  simp only [Char.ofNat_toNat]
  rw [readFuel_eq (by simp only [List.length_append]; omega)]

end Escaped

namespace Nodes

/-! ### Pieces -/

theorem ofDigits_zeros (k : ℕ) (t : Text) :
    Text.ofDigits 0 (List.replicate k '0' ++ t) = Text.ofDigits 0 t := by
  induction k with
  | zero => rfl
  | succ k ih => exact ih

/-- The numeral in a placeholder, in at least four digits. -/
def digits (n : ℕ) : Text :=
  List.replicate (4 - (Text.decimal n).length) '0' ++ Text.decimal n

theorem placeholder_eq (n : ℕ) : placeholder n = head ++ (digits n ++ [Stash.closing]) := by
  simp [placeholder, digits]

theorem isDigit_of_mem_digits {n : ℕ} : ∀ c ∈ digits n, Text.isDigit c = true := by
  intro c hc
  rcases List.mem_append.1 hc with hc | hc
  · rw [List.eq_of_mem_replicate hc]
    rfl
  · exact Text.isDigit_of_mem_decimal hc

/-- A placeholder is written with control characters, some letters, a colon and digits. -/
theorem not_mem_placeholder {c : Char} (hc : c ∉ head ++ [Stash.closing])
    (hdigit : Text.isDigit c = false) (n : ℕ) : c ∉ placeholder n := by
  rw [placeholder_eq, List.mem_append, List.mem_append]
  rintro (h | h | h)
  · exact hc (List.mem_append_left _ h)
  · rw [isDigit_of_mem_digits c h] at hdigit
    cases hdigit
  · exact hc (List.mem_append_right _ h)

theorem leading?_placeholder (n : ℕ) (t : Text) : leading? (placeholder n ++ t) = some (n, t) := by
  have hne : digits n ≠ [] := List.append_ne_nil_of_right_ne_nil _ (Text.decimal_ne_nil n)
  have h := leading?_of_digits (t := t) hne isDigit_of_mem_digits
  rw [digits, ofDigits_zeros, Text.ofDigits_decimal] at h
  have hafter : Text.after? head (placeholder n ++ t) = some (digits n ++ Stash.closing :: t) := by
    rw [placeholder_eq, List.append_assoc, Text.after?_append]
    simp
  rw [leading?, hafter]
  exact h

theorem leading?_of_ne {c : Char} (hc : c ≠ Stash.opening) (t : Text) : leading? (c :: t) = none := by
  have hafter : Text.after? head (c :: t) = none := if_neg (Ne.symm hc)
  rw [leading?, hafter]

/-- What is read is not empty. -/
theorem length_of_leading? {t r : Text} {n : ℕ} (h : leading? t = some (n, r)) :
    r.length < t.length := by
  unfold leading? at h
  split at h
  · cases h
  · rename_i rest hrest
    have hlength := Escaped.length_of_leading? h
    have hhead : 1 ≤ head.length := Nat.succ_pos _
    rw [Text.eq_append_of_after? hrest]
    simp only [List.length_cons, List.length_append] at hlength ⊢
    omega

theorem piecesFuel_eq {fuel : ℕ} {t : Text} (h : t.length ≤ fuel) :
    piecesFuel fuel t = pieces t :=
  Text.eq_of_fuel (f := piecesFuel) (fun n => by cases n <;> rfl) (fun n m c t ih => by
    simp only [piecesFuel]
    split
    · rename_i hr
      rw [ih _ (length_of_leading? hr)]
    · rw [ih _ (Nat.lt_succ_self _)]) h le_rfl

@[simp] theorem pieces_nil : pieces [] = [] := rfl

theorem pieces_cons {c : Char} (hc : c ≠ Stash.opening) (t : Text) :
    pieces (c :: t) = cons c (pieces t) := by
  show piecesFuel (t.length + 1) (c :: t) = _
  rw [piecesFuel, leading?_of_ne hc]
  rfl

theorem pieces_placeholder (n : ℕ) (t : Text) :
    pieces (placeholder n ++ t) = .node n :: pieces t := by
  have hlead := leading?_placeholder n t
  obtain ⟨u, hu⟩ : ∃ u, placeholder n ++ t = Stash.opening :: (u ++ t) :=
    ⟨"klzzwxh:".toList ++ (digits n ++ [Stash.closing]), by
      rw [placeholder_eq, List.append_assoc]
      simp [head]⟩
  rw [hu] at hlead ⊢
  show piecesFuel ((u ++ t).length + 1) _ = _
  rw [piecesFuel, hlead]
  simp only
  rw [piecesFuel_eq (by simp only [List.length_append]; omega)]

/-! ### What placeholders for texts stand for -/

variable {ns : Nodes}

@[simp] theorem source_nil : ns.source [] = [] := rfl

theorem source_cons {c : Char} (hc : c ≠ Stash.opening) (t : Text) :
    ns.source (c :: t) = c :: ns.source t := by
  unfold source sourceLevels
  rw [pieces_cons hc]
  rcases pieces t with _ | ⟨_ | _, ps⟩ <;> rfl

theorem source_placeholder {n : ℕ} {u : Text} (hn : ns[n]? = some (.text u)) (t : Text) :
    ns.source (placeholder n ++ t) = '\\' :: u ++ ns.source t := by
  unfold source sourceLevels
  rw [pieces_placeholder, List.flatMap_cons]
  simp only [hn]

theorem resolve_placeholder {n : ℕ} {u : Text} (hn : ns[n]? = some (.text u)) :
    ns.resolve (placeholder n) = (u, []) := by
  have hpieces := pieces_placeholder n []
  rw [List.append_nil] at hpieces
  unfold resolve resolveLevels
  rw [hpieces]
  simp [hn, appendText]

/-- A text in which nothing opens a placeholder is one piece. -/
theorem pieces_eq_plain {t : Text} (hne : t ≠ [])
    (h : ∀ c v, c :: v <:+ t → leading? (c :: v) = none) : pieces t = [.plain t] := by
  induction t with
  | nil => exact absurd rfl hne
  | cons c t ih =>
    have hcons : pieces (c :: t) = cons c (pieces t) := by
      show piecesFuel (t.length + 1) (c :: t) = _
      rw [piecesFuel, h c t (List.suffix_refl _)]
      rfl
    rw [hcons]
    rcases t with _ | ⟨d, t⟩
    · rfl
    · rw [ih (List.cons_ne_nil _ _) fun x v hv => h x v (hv.trans (List.suffix_cons c _))]
      rfl

/-- A text in which nothing opens a placeholder stands for itself. -/
theorem resolve_eq_self {t : Text} (h : ∀ c v, c :: v <:+ t → leading? (c :: v) = none) :
    ns.resolve t = (t, []) := by
  by_cases ht : t = []
  · rw [ht]
    rfl
  · unfold resolve resolveLevels
    rw [pieces_eq_plain ht h]
    simp [appendText]

theorem leading?_of_suffix {t : Text} (ht : Stash.opening ∉ t) {c : Char} {v : Text}
    (hv : c :: v <:+ t) : leading? (c :: v) = none :=
  leading?_of_ne (fun hc => ht (hc ▸ hv.subset List.mem_cons_self)) v

/-- A placeholder for raw HTML is none for a node. -/
theorem resolve_htmlPlaceholder (n : ℕ) :
    ns.resolve (Stash.placeholder n) = (Stash.placeholder n, []) := by
  have htail : Stash.placeholder n =
      Stash.opening :: ("wzxhzdk:".toList ++ (Text.decimal n ++ [Stash.closing])) := by
    simp [Stash.placeholder, Stash.head]
  have hdigit : Stash.opening ∉ Text.decimal n := fun h => by
    have := Text.isDigit_of_mem_decimal h
    cases this
  have hopening : Stash.opening ∉ "wzxhzdk:".toList ++ (Text.decimal n ++ [Stash.closing]) := by
    rw [List.mem_append, List.mem_append]
    rintro (h | h | h)
    · exact absurd h (by decide)
    · exact hdigit h
    · exact absurd h (by decide)
  rw [htail]
  refine resolve_eq_self fun c v hv => ?_
  rcases List.suffix_cons_iff.1 hv with heq | hv
  · rw [heq]
    rfl
  · exact leading?_of_suffix hopening hv

end Nodes

end MathPage.Markdown.Inline
