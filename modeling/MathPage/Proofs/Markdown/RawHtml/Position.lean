import MathPage.Markdown.RawHtml.State
import MathPage.Proofs.Text.Lines

/-!
# Positions in a text with raw HTML

* `lastLine` – what stands behind the last line end of a text;
* `State.At` – a state whose position is behind a part of the text;
* `State.At.advance` – moving the position behind more of the text;
* `State.At.atLineStart`, `State.At.ahead` – what is looked up at a position.
-/

namespace MathPage.Markdown.RawHtml

/-! ### The last line -/

/-- What stands behind the last line end of a text. -/
def lastLine (t : Text) : Text := (t.reverse.takeWhile (· != '\n')).reverse

theorem lastLine_append_newline (a : Text) {b : Text} (hb : '\n' ∉ b) :
    lastLine (a ++ '\n' :: b) = b := by
  have hall : ∀ c ∈ b.reverse, (c != '\n') = true := fun c hc =>
    bne_iff_ne.2 fun h => hb (h ▸ List.mem_reverse.1 hc)
  unfold lastLine
  rw [List.reverse_append, List.reverse_cons, List.append_assoc,
    List.takeWhile_append_of_pos hall]
  simp

theorem lastLine_of_not_mem {b : Text} (hb : '\n' ∉ b) : lastLine b = b := by
  have hall : ∀ c ∈ b.reverse, (c != '\n') = true := fun c hc =>
    bne_iff_ne.2 fun h => hb (h ▸ List.mem_reverse.1 hc)
  rw [lastLine, List.takeWhile_eq_self_iff.2 hall, List.reverse_reverse]

/-- A text is its last line, or ends in it behind a line end. -/
theorem eq_lastLine (t : Text) :
    '\n' ∉ t ∧ lastLine t = t ∨ ∃ a b, '\n' ∉ b ∧ t = a ++ '\n' :: b ∧ lastLine t = b := by
  by_cases h : '\n' ∈ t
  · obtain ⟨b, a, hsplit, hb⟩ := List.eq_append_cons_of_mem (List.mem_reverse.2 h)
    have ht : t = a.reverse ++ '\n' :: b.reverse := by
      rw [← List.reverse_reverse t, hsplit]
      simp
    have hb' : '\n' ∉ b.reverse := fun hmem => hb (List.mem_reverse.1 hmem)
    exact Or.inr ⟨a.reverse, b.reverse, hb', ht, by rw [ht, lastLine_append_newline _ hb']⟩
  · exact Or.inl ⟨h, lastLine_of_not_mem h⟩

theorem lastLine_suffix (t : Text) : lastLine t <:+ t := by
  rcases eq_lastLine t with ⟨-, hlast⟩ | ⟨a, b, -, ht, hlast⟩
  · rw [hlast]
  · rw [hlast]
    exact ⟨a ++ ['\n'], by rw [ht]; simp⟩

theorem not_mem_lastLine (t : Text) : '\n' ∉ lastLine t := by
  rcases eq_lastLine t with ⟨hnot, hlast⟩ | ⟨a, b, hb, -, hlast⟩
  · rwa [hlast]
  · rwa [hlast]

theorem lastLine_append_of_not_mem (t : Text) {u : Text} (hu : '\n' ∉ u) :
    lastLine (t ++ u) = lastLine t ++ u := by
  rcases eq_lastLine t with ⟨ht, hlast⟩ | ⟨a, b, hb, rfl, hlast⟩
  · rw [hlast, lastLine_of_not_mem]
    rw [List.mem_append, not_or]
    exact ⟨ht, hu⟩
  · rw [hlast, List.append_assoc, List.cons_append, lastLine_append_newline]
    rw [List.mem_append, not_or]
    exact ⟨hb, hu⟩

theorem lastLine_append_of_mem (t : Text) {u : Text} (hu : '\n' ∈ u) :
    lastLine (t ++ u) = lastLine u := by
  rcases eq_lastLine u with ⟨hnot, -⟩ | ⟨a, b, hb, rfl, hlast⟩
  · exact absurd hu hnot
  · rw [hlast, ← List.append_assoc, lastLine_append_newline _ hb]

/-! ### Line starts -/

/-- The line starts up to a line, the latest first. -/
def startsUpTo (t : Text) : ℕ → List ℕ
  | 0 => [0]
  | n + 1 => State.nextStart t ((startsUpTo t n).head?.getD 0) :: startsUpTo t n

theorem length_startsUpTo (t : Text) (n : ℕ) : (startsUpTo t n).length = n + 1 := by
  induction n with
  | zero => rfl
  | succ n ih => rw [startsUpTo, List.length_cons, ih]

theorem extend_startsUpTo (t : Text) (n k : ℕ) :
    State.extend t k (startsUpTo t n) = startsUpTo t (n + k) := by
  induction k generalizing n with
  | zero => rfl
  | succ k ih =>
    rw [← Nat.add_assoc, Nat.add_right_comm]
    exact ih (n + 1)

/-- The last line of a part of a text starts where it is looked up. -/
theorem lineStart_add_length (past rest : Text) :
    (startsUpTo (past ++ rest) (past.count '\n')).head?.getD 0 + (lastLine past).length =
      past.length := by
  induction h : past.count '\n' generalizing past rest with
  | zero =>
    rw [lastLine_of_not_mem (List.count_eq_zero.1 h)]
    exact Nat.zero_add _
  | succ n ih =>
    rcases eq_lastLine past with ⟨hnot, -⟩ | ⟨a, b, hb, rfl, hlast⟩
    · rw [List.count_eq_zero.2 hnot] at h
      cases h
    · have hcount : a.count '\n' = n := by
        rw [List.count_append, List.count_cons_self, List.count_eq_zero.2 hb] at h
        omega
      have hstart := ih a ('\n' :: b ++ rest) hcount
      rw [hlast, List.append_assoc]
      obtain ⟨u, hu⟩ := lastLine_suffix a
      have hlength : (startsUpTo (a ++ ('\n' :: b ++ rest)) n).head?.getD 0 = u.length := by
        have hsum := congrArg List.length hu
        rw [List.length_append] at hsum
        omega
      have hdrop : (a ++ ('\n' :: b ++ rest)).drop u.length =
          lastLine a ++ '\n' :: (b ++ rest) := by
        conv_lhs => rw [← hu]
        simp
      rw [startsUpTo, hlength]
      simp only [List.head?_cons, Option.getD_some, State.nextStart, hdrop,
        Text.cutAt?_singleton (not_mem_lastLine a), List.length_append, List.length_cons]
      have hsum := congrArg List.length hu
      rw [List.length_append] at hsum
      omega

/-! ### Positions -/

namespace State

/-- The position is behind a part of the text, in front of the rest. -/
structure At (s : State) (past rest : Text) : Prop where
  source : s.source = past ++ rest
  line : s.line = past.count '\n'
  column : s.column = (lastLine past).length
  starts : ∃ n, n ≤ s.line ∧ s.starts = startsUpTo s.source n

variable {s : State} {past rest : Text}

theorem At.init (stash : Stash) (t : Text) : At { stash := stash, source := t } [] t :=
  ⟨rfl, rfl, rfl, 0, le_rfl, rfl⟩

/-- Moving the position behind more of the text. -/
theorem At.advance {u : Text} (h : s.At past (u ++ rest)) : (s.advance u).At (past ++ u) rest := by
  obtain ⟨n, hn, hstarts⟩ := h.starts
  unfold State.advance
  have htail : (u.reverse.takeWhile (· != '\n')).reverse = lastLine u := rfl
  simp only [htail]
  split
  · rename_i hlength
    have hnot : '\n' ∉ u := by
      rcases eq_lastLine u with ⟨hnot, -⟩ | ⟨a, b, -, hu, hlast⟩
      · exact hnot
      · rw [hlast, hu] at hlength
        simp only [List.length_append, List.length_cons] at hlength
        omega
    refine ⟨?_, ?_, ?_, n, hn, hstarts⟩
    · rw [List.append_assoc]
      exact h.source
    · rw [List.count_append, List.count_eq_zero.2 hnot]
      exact h.line
    · rw [lastLine_append_of_not_mem _ hnot, List.length_append]
      exact congrArg (· + u.length) h.column
  · rename_i hlength
    have hmem : '\n' ∈ u := by
      by_contra hnot
      exact hlength (by rw [lastLine_of_not_mem hnot])
    refine ⟨?_, ?_, ?_, n, hn.trans (Nat.le_add_right _ _), hstarts⟩
    · rw [List.append_assoc]
      exact h.source
    · rw [List.count_append]
      exact congrArg (· + u.count '\n') h.line
    · rw [lastLine_append_of_mem _ hmem]

theorem At.locate (h : s.At past rest) :
    s.locate.At past rest ∧ s.locate.starts = startsUpTo s.source s.line := by
  obtain ⟨n, hn, hstarts⟩ := h.starts
  have hextend : s.locate.starts = startsUpTo s.source s.line := by
    show extend s.source (s.line + 1 - s.starts.length) s.starts = _
    rw [hstarts, length_startsUpTo, extend_startsUpTo]
    congr 1
    omega
  exact ⟨⟨h.source, h.line, h.column, s.line, le_rfl, hextend⟩, hextend⟩

/-- The line that is looked up ends at the position. -/
theorem At.lineStart (h : s.At past rest) :
    s.locate.lineStart + (lastLine past).length = past.length := by
  have hstart := lineStart_add_length past rest
  rw [← h.source, ← h.line] at hstart
  rw [State.lineStart, h.locate.2]
  exact hstart

/-- What is ahead of the position is looked up. -/
theorem At.ahead (h : s.At past rest) : s.locate.ahead = rest := by
  have hsum : s.locate.lineStart + s.locate.column = past.length := by
    have hcolumn : s.locate.column = (lastLine past).length := h.column
    rw [hcolumn]
    exact h.lineStart
  rw [State.ahead, hsum]
  show s.source.drop past.length = rest
  rw [h.source, List.drop_left]

/-- Whether the position is at the start of a line, or up to three blanks stand before it. -/
theorem At.atLineStart (h : s.At past rest) : s.atLineStart.2.At past rest ∧
    s.atLineStart.1 = (decide ((lastLine past).length ≤ 3) && Text.allBlank (lastLine past)) := by
  have hcolumn := h.column
  unfold State.atLineStart
  split
  · rename_i hzero
    rw [hzero] at hcolumn
    rw [List.eq_nil_of_length_eq_zero hcolumn.symm]
    exact ⟨h, rfl⟩
  · split
    · rename_i hthree
      refine ⟨h, ?_⟩
      rw [decide_eq_false (by omega), Bool.false_and]
    · rename_i hthree
      refine ⟨h.locate.1, ?_⟩
      obtain ⟨u, hu⟩ := lastLine_suffix past
      have hlength : s.locate.lineStart = u.length := by
        have hsum := congrArg List.length hu
        have hline := h.lineStart
        rw [List.length_append] at hsum
        omega
      have hline : (s.locate.source.drop s.locate.lineStart).take s.locate.column =
          lastLine past := by
        show (s.source.drop s.locate.lineStart).take s.column = _
        have hdrop : (past ++ rest).drop u.length = lastLine past ++ rest := by
          conv_lhs => rw [← hu]
          simp
        rw [hlength, h.source, hcolumn, hdrop, List.take_left]
      simp only [hline]
      rw [decide_eq_true (by omega), Bool.true_and]

end State

end MathPage.Markdown.RawHtml
