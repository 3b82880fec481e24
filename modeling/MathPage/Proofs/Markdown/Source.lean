import MathPage.Markdown.Convert
import MathPage.Proofs.Text.Lines

/-!
# Source texts that stay as they are

* `Source.normalize_unlines` – lines of printable characters, none of them made of spaces only, are
  in normal form but for the line ends behind them;
* `Fence.extract_eq_self` – a text of which no line opens with the mark of a fence holds no fenced
  code.
-/

namespace MathPage.Markdown.Source

/-- A line of printable characters that is not made of spaces only, unless it is empty. -/
structure IsPlainLine (l : Text) : Prop where
  printable : ∀ c ∈ l, Text.isHidden c = false
  clear : clearLine l = l

theorem IsPlainLine.not_mem {l : Text} (h : IsPlainLine l) {c : Char}
    (hc : Text.isHidden c = true) : c ∉ l := fun hmem => by
  rw [h.printable c hmem] at hc
  cases hc

theorem unifyLineEnds_eq_self {t : Text} (h : '\r' ∉ t) : Text.unifyLineEnds t = t := by
  induction t with
  | nil => rfl
  | cons c t ih =>
    have hc : c ≠ '\r' := Ne.symm (List.ne_of_not_mem_cons h)
    rw [Text.unifyLineEnds, ih (List.not_mem_of_not_mem_cons h)]
    · exact fun t' hct _ => hc hct
    · exact fun hct => hc hct

theorem expandTabs_eq_self {t : Text} (h : '\t' ∉ t) (column : ℕ) : expandTabs column t = t := by
  induction t generalizing column with
  | nil => rfl
  | cons c t ih =>
    rw [expandTabs, if_neg (Ne.symm (List.ne_of_not_mem_cons h)),
      ih (List.not_mem_of_not_mem_cons h)]

theorem clearLines_unlines {ls : List Text} (hne : ls ≠ []) (hline : ∀ l ∈ ls, '\n' ∉ l)
    (hclear : ∀ l ∈ ls, clearLine l = l) : clearLines (Text.unlines ls) = Text.unlines ls := by
  unfold clearLines
  rw [Text.lines_unlines hne hline]
  obtain ⟨l, ls, rfl⟩ := List.exists_cons_of_ne_nil hne
  have hmap : ls.dropLast.map clearLine = ls.dropLast := by
    refine (List.map_congr_left fun x hx => ?_).trans (List.map_id _)
    exact hclear x (List.mem_cons_of_mem _ (List.dropLast_subset _ hx))
  have hlast : ls.dropLast ++ ls.getLast?.toList = ls := by
    rcases List.eq_nil_or_concat ls with rfl | ⟨ls', x, rfl⟩
    · rfl
    · simp
  simp only [hmap, hlast]

/-- **Plain lines are in normal form** but for the line ends behind them. -/
theorem normalize_unlines {ls : List Text} (hne : ls ≠ []) (h : ∀ l ∈ ls, IsPlainLine l) :
    normalize (Text.unlines ls) = Text.unlines (ls ++ [[], []]) := by
  have hblank : ∀ l ∈ ([[], []] : List Text), '\n' ∉ l ∧ clearLine l = l := by decide
  have hends : Text.unlines ls ++ ['\n', '\n'] = Text.unlines (ls ++ [[], []]) := by
    rw [Text.unlines_append hne (List.cons_ne_nil _ _)]
    rfl
  have hpart : ∀ {c : Char}, Text.isHidden c = true → c ≠ '\n' → c ∉ Text.unlines ls :=
    fun hc hn hmem => by
      rcases Text.mem_unlines hmem with heq | ⟨l, hl, hmem⟩
      · exact hn heq
      · exact (h l hl).not_mem hc hmem
  have hfilter : (Text.unlines ls).filter (fun c => c != Stash.opening && c != Stash.closing) =
      Text.unlines ls := by
    refine List.filter_eq_self.2 fun c hc => ?_
    rw [Bool.and_eq_true, bne_iff_ne, bne_iff_ne]
    constructor
    · rintro rfl
      exact hpart rfl (by decide) hc
    · rintro rfl
      exact hpart rfl (by decide) hc
  unfold normalize
  simp only [hfilter]
  rw [unifyLineEnds_eq_self (hpart rfl (by decide)), expandTabs_eq_self (fun hmem => ?_), hends]
  · refine clearLines_unlines (List.append_ne_nil_of_left_ne_nil hne _) (fun l hl => ?_)
      fun l hl => ?_
    · rcases List.mem_append.1 hl with hl | hl
      · exact (h l hl).not_mem rfl
      · exact (hblank l hl).1
    · rcases List.mem_append.1 hl with hl | hl
      · exact (h l hl).clear
      · exact (hblank l hl).2
  · rcases List.mem_append.1 hmem with hmem | hmem
    · exact hpart rfl (by decide) hmem
    · exact absurd hmem (by decide)

end MathPage.Markdown.Source

namespace MathPage.Markdown.Fence

/-- The marks of fences. -/
def marks : Text := ['~', Text.tick]

open Pattern in
theorem rounds_head? {c : Char} {n : ℕ} {t u : Text} (hn : 3 ≤ n)
    (h : Rounds (char c).Leaves n t u) : t.head? = some c := by
  cases h with
  | done => omega
  | more hstep _ =>
    obtain ⟨x, rfl, hx⟩ := hstep
    rw [eq_of_beq hx]
    rfl

/-- **A text without fences stays as it is.** -/
theorem extract_eq_self {t : Text} (h : ∀ l ∈ Text.lines t, ∀ c ∈ marks, l.head? ≠ some c)
    (s : Stash) : extract t s = .ok (t, s) := by
  obtain ⟨p, hp⟩ : ∃ p, block = .seq Pattern.lineStart (.seq (.capture 1 (.alt
      (.many true 3 none (Pattern.char '~')) (.many true 3 none (Pattern.char Text.tick)))) p) :=
    ⟨_, rfl⟩
  have hnone : block.findFrom? 0 t = none := by
    rw [hp]
    refine Text.findFrom?_lineStart_eq_none (by decide) (fun v t' hleaves => ?_) h 0
    obtain ⟨u, ⟨n, hn, hrounds⟩ | ⟨n, hn, hrounds⟩, -⟩ := hleaves
    · exact ⟨'~', by decide, rounds_head? hn hrounds⟩
    · exact ⟨Text.tick, by decide, rounds_head? hn hrounds⟩
  unfold extract extractFuel
  simp only [hnone]

end MathPage.Markdown.Fence
