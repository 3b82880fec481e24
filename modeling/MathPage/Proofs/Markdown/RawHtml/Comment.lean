import MathPage.Proofs.Equation.Written
import MathPage.Proofs.Markdown.RawHtml.Position
import MathPage.Proofs.Markdown.RawHtml.Step
import MathPage.Proofs.Text.Pattern

/-!
# Comments in raw HTML

Text and comments are read one after the other (`Reading`). A comment that begins a line, with a blank
line behind it, is moved into the stash (`Reading.comment_kept`) and set apart from text directly
above it (`Reading.comment_kept_below`); a comment behind other text, or far from the start of its
line, is left where it is (`Reading.comment_left`).

* `extract_of_reading` – the extraction of raw HTML from a text of such pieces.
-/

namespace MathPage.Markdown.RawHtml

open Marker (IsComment)

/-! ### The token of a comment -/

/-- What ends a comment. -/
def commentEnd : Pattern :=
  Pattern.seqs [Pattern.str "--", Pattern.opt (Pattern.char '!'), Pattern.char '>']

theorem find?_commentEnd {u : Text} (h : Text.Apart '-' '-' u) (hlast : u.getLast? = some ' ')
    (rest : Text) : commentEnd.find? (u ++ ("-->".toList ++ rest)) =
      some ⟨u, "-->".toList, rest, u.length, []⟩ := by
  have hrun : commentEnd.run (.between u ("-->".toList ++ rest)) some =
      some (.between (u ++ "-->".toList) rest) := by
    have hcut : "-->".toList ++ rest = "--".toList ++ '>' :: rest := rfl
    rw [hcut]
    show (Pattern.seq (.text "--".toList) (.seq (Pattern.opt (Pattern.char '!'))
      (Pattern.char '>'))).run _ _ = _
    rw [Pattern.run_seq, Pattern.run_text]
    simp [Pattern.run, Pattern.opt, Pattern.char, Pattern.rounds, Cursor.between, Cursor.step?]
  have hfind := Pattern.findFrom?_eq_some (a := []) (u := u) (fun u₁ x u₂ hsplit => ?_) hrun
  · rw [List.nil_append] at hfind
    refine hfind.trans ?_
    simp [Pattern.toMatch, Cursor.between]
  · refine Pattern.run_eq_none (fun t' hleaves => ?_) some
    obtain ⟨v, hv, -⟩ := hleaves
    refine h.ne_cons_cons (w := "-->".toList ++ rest) (r := v) ?_ hsplit hv
    rw [hlast]
    decide

/-- A comment is one token. -/
theorem token_comment {u : Text} (h : Text.Apart '-' '-' u) (hlast : u.getLast? = some ' ')
    (start : Bool) (rest : Text) : token start ("<!--".toList ++ (u ++ ("-->".toList ++ rest))) =
      (("<!--".toList ++ (u ++ "-->".toList)).length, .comment u) := by
  have hup : upTo? 4 commentEnd ("<!--".toList ++ (u ++ ("-->".toList ++ rest))) =
      some ("<!--".toList ++ u, ("<!--".toList ++ (u ++ "-->".toList)).length) := by
    have hdrop : ("<!--".toList ++ (u ++ ("-->".toList ++ rest))).drop 4 =
        u ++ ("-->".toList ++ rest) := rfl
    have htake : ("<!--".toList ++ (u ++ ("-->".toList ++ rest))).take (4 + u.length) =
        "<!--".toList ++ u := by
      rw [← List.append_assoc, List.take_left']
      rw [List.length_append]
      rfl
    have hlength : ("<!--".toList ++ (u ++ "-->".toList)).length = 4 + (u.length + 3) := by
      rw [List.length_append, List.length_append]
      rfl
    unfold upTo?
    rw [hdrop, find?_commentEnd h hlast, Option.map_some, hlength]
    simp only [htake, Match.stop]
    rfl
  unfold commentEnd at hup
  show commentToken _ = _
  rw [commentToken, hup]
  rfl

/-! ### Reading -/

/-- How far the extraction has come in a text outside of elements: what was read, what is left to be
read, the pieces that were left in the text and the stash. -/
structure Reading (s : State) (past rest : Text) (left : List Text) (stash : Stash) : Prop where
  position : s.At past rest
  inside : s.inside = false
  behind : s.behind = false
  inline : s.inline = []
  gathered : s.gathered = []
  stack : s.stack = []
  left : s.left = left
  stash : s.stash = stash

variable {s : State} {past rest : Text} {left : List Text} {stash : Stash}

theorem Reading.init (stash : Stash) (t : Text) :
    Reading { stash := stash, source := t } [] t [] stash :=
  ⟨.init stash t, rfl, rfl, rfl, rfl, rfl, rfl, rfl⟩

theorem Reading.advance {u : Text} (h : Reading s past (u ++ rest) left stash) :
    Reading (s.advance u) (past ++ u) rest left stash := by
  have hposition := h.position.advance
  obtain ⟨line, column, heq⟩ := State.advance_eq s u
  rw [heq] at hposition ⊢
  exact ⟨hposition, h.inside, h.behind, h.inline, h.gathered, h.stack, h.left, h.stash⟩

/-- Leaving a piece in the text. -/
theorem Reading.leave (h : Reading s past rest left stash) (u : Text) :
    Reading (s.leave u) past rest (u :: left) stash :=
  ⟨⟨h.position.source, h.position.line, h.position.column, h.position.starts⟩, h.inside, h.behind,
    h.inline, h.gathered, h.stack, congrArg (u :: ·) h.left, h.stash⟩

/-- Moving a piece into the stash. -/
theorem Reading.keep (h : Reading s past rest left stash) (u : Text) :
    Reading (s.keep u) past rest ("\n\n".toList :: Stash.placeholder stash.entries.length :: left)
      (stash.store (.html u)).2 := by
  obtain rfl := h.left
  obtain rfl := h.stash
  exact ⟨⟨h.position.source, h.position.line, h.position.column, h.position.starts⟩, h.inside,
    h.behind, rfl, h.gathered, h.stack, rfl, rfl⟩

theorem Reading.locate (h : Reading s past rest left stash) :
    Reading s.locate past rest left stash :=
  ⟨h.position.locate.1, h.inside, h.behind, h.inline, h.gathered, h.stack, h.left, h.stash⟩

theorem Reading.atLineStart (h : Reading s past rest left stash) :
    Reading s.atLineStart.2 past rest left stash := by
  rcases State.atLineStart_eq s with heq | heq
  · rwa [heq]
  · rw [heq]
    exact h.locate

theorem text_eq_leave (hinside : s.inside = false) (hbehind : s.behind = false)
    (hinline : s.inline = []) (u : Text) : s.text u = s.leave u := by
  obtain ⟨_, _, _, inside, behind, _, inline, _, _, _, _⟩ := s
  obtain rfl : inside = false := hinside
  obtain rfl : behind = false := hbehind
  obtain rfl : inline = [] := hinline
  simp only [State.text, Bool.false_and, Bool.false_eq_true, if_false, ite_self]

/-- **Text is left where it is.** -/
theorem Reading.text {u : Text} (h : Reading s past (u ++ rest) left stash) (hne : u ≠ [])
    (hu : IsProse u) (hrest : ∀ c ∈ rest.head?, c = '<' ∨ c = '&') :
    ∃ s', Reading s' (past ++ u) rest (u :: left) stash ∧ Passes s (u ++ rest) s' rest :=
  ⟨_, (h.leave u).advance,
    passes_prose hne hu hrest (text_eq_leave h.inside h.behind h.inline u)⟩

/-- A comment outside of elements is read in one step. -/
theorem passes_comment {s' : State} {t : Text} (ht : IsComment t) (hinline : s.inline = [])
    (hsingle : s.single t true = s') (rest : Text) : Passes s (t ++ rest) (s'.advance t) rest := by
  obtain ⟨u, rfl, hhyphens, hspace, -⟩ := ht
  have htoken := token_comment hhyphens hspace s.behind rest
  have hassoc : "<!--".toList ++ (u ++ "-->".toList) ++ rest =
      "<!--".toList ++ (u ++ ("-->".toList ++ rest)) := by
    simp only [List.append_assoc]
  have hcomment : s.comment u = s' := by
    unfold State.comment
    rw [hinline, List.append_assoc]
    exact hsingle
  rw [← hassoc] at htoken
  exact passes_token ⟨'<', _, rfl, Or.inl rfl⟩ rfl htoken (congrArg some hcomment)

/-- **A comment behind other text of its line is left where it is.** -/
theorem Reading.comment_left {t : Text} (h : Reading s past (t ++ rest) left stash)
    (ht : IsComment t)
    (hline : (decide ((lastLine past).length ≤ 3) && Text.allBlank (lastLine past)) = false) :
    ∃ s', Reading s' (past ++ t) rest (t :: left) stash ∧ Passes s (t ++ rest) s' rest := by
  refine ⟨_, (h.atLineStart.leave t).advance, passes_comment ht h.inline ?_ rest⟩
  unfold State.single
  simp only [h.inside, h.behind, Bool.or_false, Bool.false_eq_true, if_false,
    h.position.atLineStart.2, hline, Bool.false_and]

/-- What a comment at the start of a line, with a blank line behind it, does. -/
theorem Reading.single_kept {t : Text} (h : Reading s past (t ++ rest) left stash)
    (hline : (decide ((lastLine past).length ≤ 3) && Text.allBlank (lastLine past)) = true)
    (hblank : State.blankFollows rest = true) :
    s.single t true = (if s.atLineStart.2.locate.endsLine then s.atLineStart.2.locate.leave ['\n']
      else s.atLineStart.2.locate).keep (t ++ ['\n']) := by
  have hahead : State.blankFollows (s.atLineStart.2.locate.ahead.drop t.length) = true := by
    rw [h.atLineStart.position.ahead, List.drop_left]
    exact hblank
  unfold State.single
  simp only [h.inside, h.behind, Bool.or_false, Bool.false_eq_true, if_false,
    h.position.atLineStart.2, hline, Bool.and_true, if_true, hahead]

/-- **A comment at the start of a line, with a blank line behind it, is moved into the stash.** -/
theorem Reading.comment_kept {t : Text} (h : Reading s past (t ++ rest) left stash)
    (ht : IsComment t)
    (hline : (decide ((lastLine past).length ≤ 3) && Text.allBlank (lastLine past)) = true)
    (hleft : ∀ u ∈ left.head?, Text.closes ['\n'] u = false ∨ Text.closes ['\n', '\n'] u = true)
    (hblank : State.blankFollows rest = true) :
    ∃ s', Reading s' (past ++ t) rest
        ("\n\n".toList :: Stash.placeholder stash.entries.length :: left)
        (stash.store (.html (t ++ ['\n']))).2 ∧
      Passes s (t ++ rest) s' rest := by
  refine ⟨_, (h.atLineStart.locate.keep (t ++ ['\n'])).advance, passes_comment ht h.inline ?_ rest⟩
  have hends : s.atLineStart.2.locate.endsLine = false := by
    unfold State.endsLine
    rw [h.atLineStart.locate.left]
    rcases left with _ | ⟨u, left⟩
    · rfl
    · rcases hleft u rfl with hu | hu <;> simp [hu]
  rw [h.single_kept hline hblank, hends]
  rfl

/-- The same behind a single line end, which becomes a blank line. -/
theorem Reading.comment_kept_below {t : Text} (h : Reading s past (t ++ rest) (['\n'] :: left) stash)
    (ht : IsComment t)
    (hline : (decide ((lastLine past).length ≤ 3) && Text.allBlank (lastLine past)) = true)
    (hblank : State.blankFollows rest = true) :
    ∃ s', Reading s' (past ++ t) rest
        ("\n\n".toList :: Stash.placeholder stash.entries.length :: ['\n'] :: ['\n'] :: left)
        (stash.store (.html (t ++ ['\n']))).2 ∧
      Passes s (t ++ rest) s' rest := by
  refine ⟨_, ((h.atLineStart.locate.leave ['\n']).keep (t ++ ['\n'])).advance,
    passes_comment ht h.inline ?_ rest⟩
  have hends : s.atLineStart.2.locate.endsLine = true := by
    unfold State.endsLine
    rw [h.atLineStart.locate.left]
    rfl
  rw [h.single_kept hline hblank, hends]
  rfl

/-- **The extraction of raw HTML** from a text that a pass reads to its end. -/
theorem extract_of_reading {t : Text} {s : State} {stash' : Stash} (h : Reading s t [] left stash')
    (hpass : Passes { stash := stash, source := t } t s []) :
    extract t stash = (left.reverse.flatten, stash') := by
  obtain ⟨fuel, hfuel, heq⟩ := hpass (t.length + 1) (Nat.lt_succ_self _)
  have hnil : ∀ (last : Bool) (s : State) (fuel : ℕ), pass last fuel s [] = (s, []) :=
    fun last s fuel => by cases fuel <;> rfl
  rw [hnil] at heq
  have hgathered : s.gathered.isEmpty = true := by
    rw [h.gathered]
    rfl
  unfold extract
  simp only [heq, hnil, List.isEmpty_nil, if_true, State.finish, hgathered]
  rw [h.left, h.stash]

end MathPage.Markdown.RawHtml
