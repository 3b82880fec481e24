import MathPage.Proofs.Text.Basic
import MathPage.Proofs.Text.Pattern

/-!
# Lines and paragraphs of a text

* `splitChar_append`, `splitChar_join` – the pieces of two texts with a character between them, and
  pieces that were joined by a character;
* `lines_append`, `lines_unlines` – the same for lines;
* `split_append` – a text is cut at the first pair of equal characters;
* `findFrom?_lineStart_eq_none` – a pattern for the start of a line matches nowhere if no line opens
  with a character that it needs.
-/

namespace MathPage.Text

/-! ### Pieces between the occurrences of a character -/

theorem splitChar_ne_nil (c : Char) (t : Text) : splitChar c t ≠ [] := by
  cases t with
  | nil => exact List.cons_ne_nil _ _
  | cons d t =>
    rw [splitChar]
    split
    · exact List.cons_ne_nil _ _
    · split <;> exact List.cons_ne_nil _ _

theorem splitChar_append (c : Char) (t u : Text) :
    splitChar c (t ++ c :: u) = splitChar c t ++ splitChar c u := by
  induction t with
  | nil => simp [splitChar]
  | cons d t ih =>
    rw [List.cons_append, splitChar, splitChar]
    split
    · rw [ih, List.cons_append]
    · rw [ih]
      obtain ⟨a, rest, ht⟩ := List.exists_cons_of_ne_nil (splitChar_ne_nil c t)
      rw [ht]
      rfl

theorem splitChar_of_not_mem {c : Char} {t : Text} (h : c ∉ t) : splitChar c t = [t] := by
  induction t with
  | nil => rfl
  | cons d t ih =>
    rw [splitChar, if_neg (Ne.symm (List.ne_of_not_mem_cons h)),
      ih (List.not_mem_of_not_mem_cons h)]

theorem join_cons {s t : Text} {ts : List Text} (h : ts ≠ []) :
    join s (t :: ts) = t ++ s ++ join s ts := join.eq_3 s t ts h

/-- **Joined pieces are cut where they were joined.** -/
theorem splitChar_join {c : Char} {ts : List Text} (hne : ts ≠ []) (h : ∀ t ∈ ts, c ∉ t) :
    splitChar c (join [c] ts) = ts := by
  induction ts with
  | nil => exact absurd rfl hne
  | cons t ts ih =>
    have ht := splitChar_of_not_mem (h t List.mem_cons_self)
    by_cases hts : ts = []
    · rw [hts]
      exact ht
    · rw [join_cons hts, List.append_assoc, List.singleton_append, splitChar_append, ht,
        ih hts fun t' ht' => h t' (List.mem_cons_of_mem _ ht')]
      rfl

/-- The pieces between the occurrences of a character, joined by it. -/
theorem join_splitChar (c : Char) (t : Text) : join [c] (splitChar c t) = t := by
  induction t with
  | nil => rfl
  | cons d t ih =>
    obtain ⟨a, rest, ht⟩ := List.exists_cons_of_ne_nil (splitChar_ne_nil c t)
    rw [splitChar]
    split
    · rename_i h
      rw [join_cons (splitChar_ne_nil c t), ih, h]
      rfl
    · rw [ht] at ih ⊢
      cases rest with
      | nil => exact congrArg (d :: ·) ih
      | cons b rest => exact congrArg (d :: ·) ih

theorem mem_join_iff {c : Char} {s : Text} (hc : c ∉ s) {ts : List Text} :
    c ∈ join s ts ↔ ∃ t ∈ ts, c ∈ t := by
  induction ts with
  | nil => simp [join]
  | cons t ts ih =>
    by_cases hts : ts = []
    · simp [hts, join]
    · rw [join_cons hts, List.mem_append, List.mem_append, ih, or_iff_left hc,
        List.exists_mem_cons_iff _ t]

/-- Only the character at which a text is cut is lost. -/
theorem exists_mem_splitChar_iff {c s : Char} (hc : c ≠ s) {t : Text} :
    (∃ n ∈ splitChar s t, c ∈ n) ↔ c ∈ t := by
  induction t with
  | nil => simp [splitChar]
  | cons d t ih =>
    rw [List.mem_cons, ← ih, splitChar]
    split
    · rename_i hd
      subst hd
      simp [hc]
    · split
      · rename_i hnil
        simp [hnil]
      · rename_i a rest hsplit
        simp [hsplit, or_assoc]

theorem not_mem_of_mem_splitChar {c : Char} {t n : Text} (h : n ∈ splitChar c t) : c ∉ n := by
  induction t generalizing n with
  | nil =>
    obtain rfl := List.mem_singleton.1 h
    exact List.not_mem_nil
  | cons d t ih =>
    obtain ⟨a, rest, ht⟩ := List.exists_cons_of_ne_nil (splitChar_ne_nil c t)
    rw [splitChar, ht] at h
    rw [ht] at ih
    split at h
    · rcases List.mem_cons.1 h with rfl | h
      · exact List.not_mem_nil
      · exact ih h
    · rename_i hd
      rcases List.mem_cons.1 h with rfl | h
      · exact List.not_mem_cons_of_ne_of_not_mem (Ne.symm hd) (ih List.mem_cons_self)
      · exact ih (List.mem_cons_of_mem _ h)

/-! ### Lines -/

theorem lines_append (t u : Text) : lines (t ++ '\n' :: u) = lines t ++ lines u :=
  splitChar_append '\n' t u

theorem lines_of_not_mem {l : Text} (h : '\n' ∉ l) : lines l = [l] := splitChar_of_not_mem h

/-- The first character of a text is that of a line, unless it ends one. -/
theorem exists_line_of_cons {c : Char} (hc : c ≠ '\n') (t : Text) :
    ∃ l ∈ lines (c :: t), l.head? = some c := by
  obtain ⟨a, rest, ht⟩ := List.exists_cons_of_ne_nil (splitChar_ne_nil '\n' t)
  refine ⟨c :: a, ?_, rfl⟩
  rw [lines, splitChar, if_neg hc, ht]
  exact List.mem_cons_self

theorem unlines_cons {l : Text} {ls : List Text} (h : ls ≠ []) :
    unlines (l :: ls) = l ++ '\n' :: unlines ls := by
  rw [unlines, join_cons h, List.append_assoc]
  rfl

/-- **Joined lines are cut where they were joined.** -/
theorem lines_unlines {ls : List Text} (hne : ls ≠ []) (h : ∀ l ∈ ls, '\n' ∉ l) :
    lines (unlines ls) = ls := splitChar_join hne h

theorem unlines_lines (t : Text) : unlines (lines t) = t := join_splitChar '\n' t

theorem mem_unlines {c : Char} {ls : List Text} (h : c ∈ unlines ls) :
    c = '\n' ∨ ∃ l ∈ ls, c ∈ l := by
  rcases eq_or_ne c '\n' with hc | hc
  · exact Or.inl hc
  · exact Or.inr ((mem_join_iff fun hmem => hc (List.mem_singleton.1 hmem)).1 h)

theorem unlines_append {ls ls' : List Text} (hne : ls ≠ []) (hne' : ls' ≠ []) :
    unlines (ls ++ ls') = unlines ls ++ '\n' :: unlines ls' := by
  induction ls with
  | nil => exact absurd rfl hne
  | cons l ls ih =>
    by_cases hls : ls = []
    · rw [hls, List.singleton_append, unlines_cons hne']
      rfl
    · rw [List.cons_append, unlines_cons (List.append_ne_nil_of_left_ne_nil hls _), ih hls,
        unlines_cons hls]
      simp

/-! ### Pairs of equal characters -/

variable {c : Char} {t : Text}

/-- Such a text is cut at the first pair. -/
theorem cutAt?_pair (h : Apart c c t) (hlast : t.getLast? ≠ some c) (u : Text) :
    cutAt? [c, c] (t ++ c :: c :: u) = some (t, u) := by
  induction t with
  | nil => simp [cutAt?, after?]
  | cons x t ih =>
    obtain ⟨hfirst, hrest⟩ := apart_cons.1 h
    have hnone : after? [c, c] (x :: (t ++ c :: c :: u)) = none := by
      rw [Option.eq_none_iff_forall_ne_some]
      intro r hr
      obtain ⟨rfl, hsplit⟩ := List.cons.inj (eq_append_of_after? hr)
      rcases t with _ | ⟨y, t⟩
      · exact hlast rfl
      · obtain ⟨rfl, -⟩ := List.cons.inj hsplit
        exact hfirst rfl rfl
    have hlast' : t.getLast? ≠ some c := fun ht => by
      rcases t with _ | ⟨y, t⟩
      · cases ht
      · exact hlast ht
    rw [List.cons_append, cutAt?, hnone, ih hrest hlast', Option.map_some]

theorem cutAt?_pair_eq_none (h : Apart c c t) : cutAt? [c, c] t = none := by
  rw [Option.eq_none_iff_forall_ne_some]
  rintro ⟨a, b⟩ hcut
  exact h.not_infix (eq_append_of_cutAt? hcut)

theorem splitFuel_eq {p : Text} (hp : p ≠ []) {fuel : ℕ} (h : t.length ≤ fuel) :
    splitFuel p fuel t = split p t := by
  have hnil : ∀ n, splitFuel p n [] = splitFuel p 0 [] := fun n => by
    cases n with
    | zero => rfl
    | succ n =>
      have hcut : cutAt? p [] = none := by
        rw [Option.eq_none_iff_forall_ne_some]
        rintro ⟨a, b⟩ hcut
        have hsplit := eq_append_of_cutAt? hcut
        simp [hp] at hsplit
      simp only [splitFuel, hcut]
  refine eq_of_fuel (f := splitFuel p) hnil (fun n m x t ih => ?_) h le_rfl
  simp only [splitFuel]
  split
  · rename_i a b hcut
    have hlength := congrArg List.length (eq_append_of_cutAt? hcut)
    have hpos := List.length_pos_iff.2 hp
    rw [List.length_append, List.length_append] at hlength
    rw [ih b (by omega)]
  · rfl

/-- **A text is cut at the first pair**, and what is behind it at further ones. -/
theorem split_append (h : Apart c c t) (hlast : t.getLast? ≠ some c) (u : Text) :
    split [c, c] (t ++ c :: c :: u) = t :: split [c, c] u := by
  have hlength : (t ++ c :: c :: u).length = (t.length + u.length + 1) + 1 := by
    simp only [List.length_append, List.length_cons]
    omega
  rw [split, hlength, splitFuel, cutAt?_pair h hlast]
  simp only
  rw [splitFuel_eq (List.cons_ne_nil _ _) (by omega)]

theorem split_eq_singleton (h : Apart c c t) : split [c, c] t = [t] := by
  unfold split
  cases t.length with
  | zero => rfl
  | succ n => simp only [splitFuel, cutAt?_pair_eq_none h]

/-! ### Patterns at the start of a line -/

/-- What stands at the start of a line opens a line. -/
theorem head?_at_lineStart {t u v : Text} (ht : t = u ++ v)
    (hu : u.getLast?.all (· == '\n') = true) {c : Char} (hc : c ≠ '\n') (hv : v.head? = some c) :
    ∃ l ∈ lines t, l.head? = some c := by
  rcases v with _ | ⟨x, v⟩
  · cases hv
  · obtain rfl := Option.some.inj hv
    obtain ⟨l, hl, hhead⟩ := exists_line_of_cons hc v
    refine ⟨l, ?_, hhead⟩
    rcases List.eq_nil_or_concat u with rfl | ⟨u', y, rfl⟩
    · rwa [ht]
    · have hy : y = '\n' := by simpa using hu
      rw [ht, hy, List.concat_eq_append, List.append_assoc, List.singleton_append, lines_append]
      exact List.mem_append_right _ hl

theorem run_lineStart (p : Pattern) (u v : Text) :
    (Pattern.seq .lineStart p).run (.between u v) some =
      if u.getLast?.all (· == '\n') then p.run (.between u v) some else none := by
  rw [← List.head?_reverse]
  rfl

theorem findFrom?_lineStart_eq_none {p : Pattern} {heads t : Text} (hheads : '\n' ∉ heads)
    (hp : ∀ v t', p.Leaves v t' → ∃ c ∈ heads, v.head? = some c)
    (ht : ∀ l ∈ lines t, ∀ c ∈ heads, l.head? ≠ some c) (pos : ℕ) :
    (Pattern.seq .lineStart p).findFrom? pos t = none := by
  refine Pattern.findFrom?_eq_none_of_forall (fun u v huv => ?_) pos
  rw [run_lineStart]
  split
  · rename_i hu
    refine Pattern.run_eq_none (fun t' hleaves => ?_) some
    obtain ⟨c, hc, hhead⟩ := hp v t' hleaves
    obtain ⟨l, hl, hline⟩ := head?_at_lineStart huv hu (ne_of_mem_of_not_mem hc hheads) hhead
    exact ht l hl c hc hline
  · rfl

end MathPage.Text
