import MathPage.Proofs.Markdown.RawHtml.Comment
import MathPage.Proofs.Markdown.RawHtml.Tag

/-!
# Elements in raw HTML

An element that begins a line is moved into the stash as one piece, whatever is inside, as long as its
tags are balanced.

* `Content` – text with tags, comments and entities, in which every element is closed;
* `Gathering.content` – inside an element all of it is gathered, and the open elements stay open;
* `Reading.element_kept`, `Reading.element_kept_line` – an element that begins a line is moved into
  the stash.
-/

namespace MathPage.Markdown.RawHtml

open Marker (IsComment)

/-! ### Balanced markup -/

/-- An entity. -/
def entity (n : Text) : Text := '&' :: n ++ [';']

/-- What may stand inside an element: text with comments, entities, tags without content, and elements
that are closed. -/
inductive Content : Text → Prop where
  | prose {t : Text} (ht : IsProse t) : Content t
  | comment {t c u : Text} (ht : IsProse t) (hc : IsComment c) (hu : Content u) :
    Content (t ++ (c ++ u))
  | entity {t n u : Text} (ht : IsProse t) (hn : n ≠ [] ∧ n.all Text.isLetter = true)
    (hu : Content u) : Content (t ++ (entity n ++ u))
  | void {t u : Text} (e : Tag) (ht : IsProse t) (he : State.isVoid e.key = true)
    (hu : Content u) : Content (t ++ (e.opened ++ u))
  | single {t b u : Text} (e : Tag) (ht : IsProse t) (hb : b ∈ selfClosings)
    (hu : Content u) : Content (t ++ (e.head ++ b ++ u))
  | element {t inner u : Text} (e : Tag) (ht : IsProse t)
    (he : State.isVoid e.key = false ∧ State.isOpaque e.key = false) (hinner : Content inner)
    (hu : Content u) : Content (t ++ (e.opened ++ (inner ++ (e.closed ++ u))))

/-- An entity is one token. -/
theorem token_entity {n : Text} (hne : n ≠ []) (hn : n.all Text.isLetter = true) (start : Bool)
    (rest : Text) : token start (entity n ++ rest) =
        ((entity n).length, .single (entity n) false) ∧
      maybeDeclaration (entity n ++ rest) = false := by
  obtain ⟨c, cs, rfl⟩ := List.exists_cons_of_ne_nil hne
  rw [List.all_cons, Bool.and_eq_true] at hn
  have hsplit : entity (c :: cs) ++ rest = '&' :: c :: (cs ++ ';' :: rest) := by simp [entity]
  have hmark : c ≠ '#' := fun h => by
    rw [h] at hn
    exact absurd hn.1 (by decide)
  have hname : ∀ x ∈ cs, (Text.isLetter x || Text.isDigit x || x == '-' || x == '.') = true :=
    fun x hx => by simp [List.all_eq_true.1 hn.2 x hx]
  have htake : (cs ++ ';' :: rest).takeWhile
      (fun x => Text.isLetter x || Text.isDigit x || x == '-' || x == '.') = cs := by
    rw [List.takeWhile_append_of_pos hname]
    simp [Text.isLetter, Text.isDigit]
  have hlength : (entity (c :: cs)).length = cs.length + 3 := by simp [entity]
  have hwritten : ('&' :: c :: (cs ++ ';' :: rest)).take (cs.length + 3) = entity (c :: cs) := by
    rw [← hsplit, ← hlength, List.take_left]
  have hdeclaration : maybeDeclaration ('&' :: c :: (cs ++ ';' :: rest)) = false := rfl
  rw [hsplit, hlength]
  refine ⟨?_, hdeclaration⟩
  unfold token
  rw [hdeclaration]
  simp only [Bool.false_eq_true, if_false, htake, List.drop_left, List.head?_cons,
    beq_self_eq_true, hn.1, Bool.and_self, if_true, hwritten]

/-! ### Inside an element -/

/-- How far the extraction has come in an element: what was read, what is left to be read, the pieces
that were left in the text, the stash, what was gathered and the tags of the open elements. -/
structure Gathering (s : State) (past rest : Text) (left : List Text) (stash : Stash)
    (gathered : Text) (stack : List Text) : Prop where
  position : s.At past rest
  inside : s.inside = true
  behind : s.behind = false
  inline : s.inline = []
  left : s.left = left
  stash : s.stash = stash
  gathered : s.gathered = gathered
  stack : s.stack = stack

theorem closeTag_append {tag : Text} {inner stack : List Text} (h : tag ∉ inner) :
    State.closeTag tag (inner ++ tag :: stack) = stack := by
  have hne : ∀ x ∈ inner, (x != tag) = true := fun x hx => bne_iff_ne.2 fun heq => h (heq ▸ hx)
  rw [State.closeTag, if_pos (by simp), List.dropWhile_append_of_pos hne]
  simp

/-- Text with a line end, where HTML that is closed again stood in front of it. -/
theorem Reading.text_behind {s : State} {past rest u : Text} {left : List Text} {stash : Stash}
    (h : Reading s past rest left stash) (hline : '\n' ∈ u) :
    ({ s with behind := true } : State).text u = s.leave u := by
  have hcontains : u.contains '\n' = true := List.contains_iff_mem.2 hline
  obtain ⟨-, hinside, hbehind, hinline, -⟩ := h
  obtain ⟨_, _, _, inside, behind, _, inline, _, _, _, _⟩ := s
  obtain rfl : inside = false := hinside
  obtain rfl : behind = false := hbehind
  obtain rfl : inline = [] := hinline
  simp only [State.text, hcontains, Bool.and_self, if_true, ite_self, Bool.false_eq_true, if_false]

namespace Gathering

variable {s : State} {past rest : Text} {left : List Text} {stash : Stash} {gathered : Text}
  {stack : List Text}

/-- More is gathered. -/
theorem gather (h : Gathering s past rest left stash gathered stack) (g : Text) :
    Gathering (s.gather g) past rest left stash (gathered ++ g) stack :=
  ⟨⟨h.position.source, h.position.line, h.position.column, h.position.starts⟩, h.inside, h.behind,
    h.inline, h.left, h.stash, congrArg (· ++ g) h.gathered, h.stack⟩

/-- Moving the position changes nothing else. -/
theorem advance {u : Text} (h : Gathering s past (u ++ rest) left stash gathered stack) :
    Gathering (s.advance u) (past ++ u) rest left stash gathered stack := by
  have hposition := h.position.advance
  obtain ⟨line, column, heq⟩ := State.advance_eq s u
  rw [heq] at hposition ⊢
  exact ⟨hposition, h.inside, h.behind, h.inline, h.left, h.stash, h.gathered, h.stack⟩

/-- Other elements are open. -/
theorem withStack (h : Gathering s past rest left stash gathered stack) (stack' : List Text) :
    Gathering { s with stack := stack' } past rest left stash gathered stack' :=
  ⟨⟨h.position.source, h.position.line, h.position.column, h.position.starts⟩, h.inside, h.behind,
    h.inline, h.left, h.stash, h.gathered, rfl⟩

theorem locate (h : Gathering s past rest left stash gathered stack) :
    Gathering s.locate past rest left stash gathered stack :=
  ⟨h.position.locate.1, h.inside, h.behind, h.inline, h.left, h.stash, h.gathered, h.stack⟩

theorem atLineStart (h : Gathering s past rest left stash gathered stack) :
    Gathering s.atLineStart.2 past rest left stash gathered stack := by
  rcases State.atLineStart_eq s with heq | heq
  · rwa [heq]
  · rw [heq]
    exact h.locate

theorem single_eq (h : Gathering s past rest left stash gathered stack) (u : Text) (block : Bool) :
    s.single u block = s.gather u := by
  rw [State.single, h.inside]
  rfl

theorem text_eq (h : Gathering s past rest left stash gathered stack) (u : Text) :
    s.text u = s.gather u := by
  obtain ⟨-, hinside, hbehind, hinline, -⟩ := h
  obtain ⟨_, _, _, inside, behind, _, inline, _, _, _, _⟩ := s
  obtain rfl : inside = true := hinside
  obtain rfl : behind = false := hbehind
  obtain rfl : inline = [] := hinline
  simp only [State.text, Bool.false_and, Bool.false_eq_true, ite_self, if_true]

/-- **Text inside an element is gathered.** -/
theorem prose {u : Text} (h : Gathering s past (u ++ rest) left stash gathered stack)
    (hu : IsProse u) (hrest : ∀ c ∈ rest.head?, c = '<' ∨ c = '&') :
    ∃ s', Gathering s' (past ++ u) rest left stash (gathered ++ u) stack ∧
      Passes s (u ++ rest) s' rest := by
  by_cases hne : u = []
  · obtain rfl := hne
    refine ⟨s, ?_, .refl _ _⟩
    simpa using h
  · exact ⟨_, (h.gather u).advance, passes_prose hne hu hrest (h.text_eq u)⟩

/-- Markup without content is gathered as it is. -/
theorem single {u : Text} {block : Bool} {tok : Token}
    (h : Gathering s past (u ++ rest) left stash gathered stack)
    (hmark : ∃ c v, u = c :: v ∧ (c = '<' ∨ c = '&'))
    (hdeclaration : maybeDeclaration (u ++ rest) = false)
    (htoken : token s.behind (u ++ rest) = (u.length, tok))
    (htake : s.take u tok = some (s.single u block)) :
    ∃ s', Gathering s' (past ++ u) rest left stash (gathered ++ u) stack ∧
      Passes s (u ++ rest) s' rest := by
  refine ⟨_, (h.gather u).advance, passes_token hmark hdeclaration htoken ?_⟩
  rw [htake, h.single_eq]

/-- A comment is gathered. -/
theorem comment {c : Text} (h : Gathering s past (c ++ rest) left stash gathered stack)
    (hc : IsComment c) : ∃ s', Gathering s' (past ++ c) rest left stash (gathered ++ c) stack ∧
      Passes s (c ++ rest) s' rest :=
  ⟨_, (h.gather c).advance, passes_comment hc h.inline (h.single_eq c true) rest⟩

/-- A start tag opens an element. -/
theorem opened (e : Tag) (h : Gathering s past (e.opened ++ rest) left stash gathered stack)
    (he : State.isOpaque e.key = false) (hhr : e.key ≠ "hr".toList) :
    ∃ s', Gathering s' (past ++ e.opened) rest left stash (gathered ++ e.opened) (e.key :: stack) ∧
      Passes s (e.opened ++ rest) s' rest := by
  obtain ⟨s₁, h₁, heq⟩ : ∃ s₁, Gathering s₁ past (e.opened ++ rest) left stash gathered stack ∧
      s.opened e.key e.opened = ({ s₁ with stack := e.key :: stack } : State).gather e.opened := by
    by_cases hblock : isBlockTag e.key
    · refine ⟨_, h.atLineStart, ?_⟩
      simp only [State.opened, hblock, h.behind, Bool.not_false, Bool.and_self, if_true,
        h.atLineStart.inside, Bool.not_true, Bool.and_false, Bool.false_eq_true, if_false,
        h.atLineStart.stack]
    · refine ⟨s, h, ?_⟩
      simp only [State.opened, hblock, Bool.false_and, Bool.false_eq_true, if_false, h.inside,
        if_true, h.stack]
  have htoken := (e.token_opened hhr s.behind rest).1
  refine ⟨_, ((h₁.withStack _).gather e.opened).advance, passes_token e.opened_mark
    (e.token_opened hhr s.behind rest).2 htoken ?_⟩
  rw [State.take, he, if_neg Bool.false_ne_true, heq]

/-- What an end tag does at the position. -/
theorem closed_eq (e : Tag) (h : Gathering s past (e.closed ++ rest) left stash gathered stack) :
    ∃ s₁, Gathering s₁ past (e.closed ++ rest) left stash gathered
        (State.closeTag e.key stack) ∧
      s.closed e.key =
        if (State.closeTag e.key stack).isEmpty then
          let s := if State.blankFollows rest then (s₁.gather e.closed).gather ['\n']
            else { s₁.gather e.closed with behind := true }
          { { s with inside := false }.keep s.gathered with gathered := [] }
        else s₁.gather e.closed := by
  refine ⟨_, h.locate.withStack _, ?_⟩
  have hcut : Text.cutAt? ['>'] s.locate.ahead = some ("</".toList ++ e.name, rest) := by
    rw [h.position.ahead]
    exact e.cutAt?_closed rest
  have hwritten : "</".toList ++ e.name ++ ['>'] = e.closed := rfl
  have hrest : (({ s.locate with stack := State.closeTag e.key stack } : State).gather
      e.closed).ahead.drop e.closed.length = rest := by
    show s.locate.ahead.drop e.closed.length = rest
    rw [h.position.ahead, List.drop_left]
  unfold State.closed
  simp only [hcut, hwritten]
  rw [if_pos h.locate.inside, h.locate.stack, hrest]
  rfl

/-- An end tag closes the innermost element of its name; another one stays open. -/
theorem closed (e : Tag) {inner : List Text} (hinner : e.key ∉ inner) (hstack : stack ≠ [])
    (h : Gathering s past (e.closed ++ rest) left stash gathered (inner ++ e.key :: stack)) :
    ∃ s', Gathering s' (past ++ e.closed) rest left stash (gathered ++ e.closed) stack ∧
      Passes s (e.closed ++ rest) s' rest := by
  obtain ⟨s₁, h₁, heq⟩ := closed_eq e h
  rw [closeTag_append hinner] at h₁ heq
  have hopen : stack.isEmpty = false := by simpa using hstack
  rw [hopen, if_neg Bool.false_ne_true] at heq
  obtain ⟨htoken, hdeclaration⟩ := e.token_closed s.behind rest
  exact ⟨_, (h₁.gather e.closed).advance,
    passes_token e.closed_mark hdeclaration htoken (congrArg some heq)⟩

/-- A tag without content is gathered; it may stay open. -/
theorem void (e : Tag) (h : Gathering s past (e.opened ++ rest) left stash gathered stack)
    (he : State.isVoid e.key = true) :
    ∃ s' inner, Gathering s' (past ++ e.opened) rest left stash (gathered ++ e.opened)
        (inner ++ stack) ∧ (∀ tag ∈ inner, State.isVoid tag = true) ∧
      Passes s (e.opened ++ rest) s' rest := by
  by_cases hhr : e.key = "hr".toList
  · obtain ⟨htoken, hdeclaration⟩ := e.token_hr hhr s.behind rest
    have htake : s.take e.opened (.single e.opened true) = some (s.single e.opened true) := rfl
    obtain ⟨s', h', hpass⟩ := h.single e.opened_mark hdeclaration htoken htake
    exact ⟨s', [], h', by simp, hpass⟩
  · have hverbatim : State.isOpaque e.key = false := by
      rw [Bool.eq_false_iff]
      intro hverbatim
      simp only [State.isOpaque, Bool.or_eq_true, beq_iff_eq] at hverbatim
      rcases hverbatim with h | h <;> rw [h] at he <;> exact absurd he (by decide)
    obtain ⟨s', h', hpass⟩ := h.opened e hverbatim hhr
    exact ⟨s', [e.key], h', by simpa using he, hpass⟩

/-- **What stands inside an element is gathered**, and the elements around it stay open. -/
theorem content {u : Text} (hu : Content u) (hopen : stack ≠ [])
    (hrest : ∀ c ∈ rest.head?, c = '<' ∨ c = '&')
    (h : Gathering s past (u ++ rest) left stash gathered stack) :
    ∃ s' inner, Gathering s' (past ++ u) rest left stash (gathered ++ u) (inner ++ stack) ∧
      (∀ tag ∈ inner, State.isVoid tag = true) ∧ Passes s (u ++ rest) s' rest := by
  induction hu generalizing s past gathered stack rest with
  | prose ht =>
    obtain ⟨s', h', hpass⟩ := h.prose ht hrest
    exact ⟨s', [], h', by simp, hpass⟩
  | @comment t c u ht hc _ ih =>
    obtain ⟨v, hv⟩ := hc.exists_cons
    simp only [List.append_assoc] at h ⊢
    obtain ⟨s₁, h₁, hpass₁⟩ := h.prose ht (by simp [hv])
    obtain ⟨s₂, h₂, hpass₂⟩ := h₁.comment hc
    obtain ⟨s₃, inner, h₃, hvoid, hpass₃⟩ := ih hopen hrest h₂
    exact ⟨s₃, inner, by simpa only [List.append_assoc] using h₃, hvoid,
      hpass₁.trans (hpass₂.trans hpass₃)⟩
  | @entity t n u ht hn _ ih =>
    simp only [List.append_assoc] at h ⊢
    obtain ⟨s₁, h₁, hpass₁⟩ := h.prose ht (by simp [entity])
    obtain ⟨htoken, hdeclaration⟩ := token_entity hn.1 hn.2 s₁.behind (u ++ rest)
    obtain ⟨s₂, h₂, hpass₂⟩ := h₁.single ⟨'&', _, rfl, Or.inr rfl⟩ hdeclaration htoken rfl
    obtain ⟨s₃, inner, h₃, hvoid, hpass₃⟩ := ih hopen hrest h₂
    exact ⟨s₃, inner, by simpa only [List.append_assoc] using h₃, hvoid,
      hpass₁.trans (hpass₂.trans hpass₃)⟩
  | @void t u e ht he _ ih =>
    simp only [List.append_assoc] at h ⊢
    obtain ⟨s₁, h₁, hpass₁⟩ := h.prose ht (by simp [Tag.opened, Tag.head])
    obtain ⟨s₂, inner, h₂, hvoid, hpass₂⟩ := h₁.void e he
    obtain ⟨s₃, inner', h₃, hvoid', hpass₃⟩ := ih (by simp [hopen]) hrest h₂
    refine ⟨s₃, inner' ++ inner, by simpa only [List.append_assoc] using h₃, fun tag htag => ?_,
      hpass₁.trans (hpass₂.trans hpass₃)⟩
    exact (List.mem_append.1 htag).elim (hvoid' tag) (hvoid tag)
  | @single t b u e ht hb _ ih =>
    simp only [List.append_assoc] at h ⊢
    obtain ⟨s₁, h₁, hpass₁⟩ := h.prose ht (by simp [Tag.head])
    rw [← List.append_assoc e.head] at h₁
    obtain ⟨htoken, hdeclaration⟩ := e.token_single hb s₁.behind (u ++ rest)
    obtain ⟨s₂, h₂, hpass₂⟩ := h₁.single ⟨'<', _, rfl, Or.inl rfl⟩ hdeclaration htoken rfl
    obtain ⟨s₃, inner, h₃, hvoid, hpass₃⟩ := ih hopen hrest h₂
    rw [List.append_assoc] at hpass₂
    exact ⟨s₃, inner, by simpa only [List.append_assoc] using h₃, hvoid,
      hpass₁.trans (hpass₂.trans hpass₃)⟩
  | @element t inside u e ht he _ _ ih ih' =>
    simp only [List.append_assoc] at h ⊢
    have hhr : e.key ≠ "hr".toList := fun h => by
      rw [h] at he
      exact absurd he.1 (by decide)
    obtain ⟨s₁, h₁, hpass₁⟩ := h.prose ht (by simp [Tag.opened, Tag.head])
    obtain ⟨s₂, h₂, hpass₂⟩ := h₁.opened e he.2 hhr
    obtain ⟨s₃, inner, h₃, hvoid, hpass₃⟩ := ih (by simp) (by simp [Tag.closed]) h₂
    have hnot : e.key ∉ inner := fun hmem => by
      rw [hvoid _ hmem] at he
      exact absurd he.1 (by decide)
    obtain ⟨s₄, h₄, hpass₄⟩ := h₃.closed e hnot hopen
    obtain ⟨s₅, inner', h₅, hvoid', hpass₅⟩ := ih' hopen hrest h₄
    exact ⟨s₅, inner', by simpa only [List.append_assoc] using h₅, hvoid',
      hpass₁.trans (hpass₂.trans (hpass₃.trans (hpass₄.trans hpass₅)))⟩

/-- What was gathered is moved into the stash. -/
theorem keep (h : Gathering s past rest left stash gathered []) :
    Reading { ({ s with inside := false } : State).keep s.gathered with gathered := [] } past rest
      ("\n\n".toList :: Stash.placeholder stash.entries.length :: left)
      (stash.store (.html gathered)).2 := by
  obtain rfl := h.left
  obtain rfl := h.stash
  obtain rfl := h.gathered
  exact ⟨⟨h.position.source, h.position.line, h.position.column, h.position.starts⟩, rfl, h.behind,
    rfl, rfl, h.stack, rfl, rfl⟩

/-- **The last end tag, with a blank line behind it.** -/
theorem close (e : Tag) {inner : List Text} (hinner : e.key ∉ inner)
    (hblank : State.blankFollows rest = true)
    (h : Gathering s past (e.closed ++ rest) left stash gathered (inner ++ [e.key])) :
    ∃ s', Reading s' (past ++ e.closed) rest
        ("\n\n".toList :: Stash.placeholder stash.entries.length :: left)
        (stash.store (.html (gathered ++ e.closed ++ ['\n']))).2 ∧
      Passes s (e.closed ++ rest) s' rest := by
  obtain ⟨s₁, h₁, heq⟩ := closed_eq e h
  rw [closeTag_append hinner] at h₁ heq
  rw [hblank] at heq
  obtain ⟨htoken, hdeclaration⟩ := e.token_closed s.behind rest
  exact ⟨_, ((h₁.gather e.closed).gather ['\n']).keep.advance,
    passes_token e.closed_mark hdeclaration htoken (congrArg some heq)⟩

/-- **The last end tag, with text below it on the next line.** -/
theorem close_line (e : Tag) {inner : List Text} {u : Text} (hinner : e.key ∉ inner)
    (hblank : State.blankFollows (u ++ rest) = false) (hline : '\n' ∈ u) (hu : IsProse u)
    (hrest : ∀ c ∈ rest.head?, c = '<' ∨ c = '&')
    (h : Gathering s past (e.closed ++ (u ++ rest)) left stash gathered (inner ++ [e.key])) :
    ∃ s', Reading s' (past ++ e.closed ++ u) rest
        (u :: "\n\n".toList :: Stash.placeholder stash.entries.length :: left)
        (stash.store (.html (gathered ++ e.closed))).2 ∧
      Passes s (e.closed ++ (u ++ rest)) s' rest := by
  obtain ⟨s₁, h₁, heq⟩ := closed_eq e h
  rw [closeTag_append hinner] at h₁ heq
  rw [hblank] at heq
  have hkept := (h₁.gather e.closed).keep
  set r : State := { ({ s₁.gather e.closed with inside := false } : State).keep
    (s₁.gather e.closed).gathered with gathered := [] }
  have hclosed : s.closed e.key = { r with behind := true } := heq
  obtain ⟨htoken, hdeclaration⟩ := e.token_closed s.behind (u ++ rest)
  have hadvanced := hkept.advance
  have htext : (({ r with behind := true } : State).advance e.closed).text u =
      (r.advance e.closed).leave u := by
    have hadvance : ({ r with behind := true } : State).advance e.closed =
        { r.advance e.closed with behind := true } := by
      unfold State.advance
      simp only
      split <;> rfl
    rw [hadvance]
    exact hadvanced.text_behind hline
  exact ⟨_, (hadvanced.leave u).advance,
    (passes_token e.closed_mark hdeclaration htoken (congrArg some hclosed)).trans
      (passes_prose (List.ne_nil_of_mem hline) hu hrest htext)⟩

end Gathering

/-! ### Elements that begin a line -/

variable {s : State} {past rest : Text} {left : List Text} {stash : Stash}

/-- A start tag that begins a line opens an element. -/
theorem Reading.opened (e : Tag) (h : Reading s past (e.opened ++ rest) left stash)
    (hblock : isBlockTag e.key = true) (hverbatim : State.isOpaque e.key = false)
    (hhr : e.key ≠ "hr".toList)
    (hline : (decide ((lastLine past).length ≤ 3) && Text.allBlank (lastLine past)) = true) :
    ∃ s', Gathering s' (past ++ e.opened) rest (['\n'] :: left) stash e.opened [e.key] ∧
      Passes s (e.opened ++ rest) s' rest := by
  have hat := h.atLineStart
  have hstart : s.opened e.key e.opened = ({ ({ s.atLineStart.2 with inside := true } : State).leave
      ['\n'] with stack := [e.key] } : State).gather e.opened := by
    simp only [State.opened, hblock, h.behind, Bool.not_false, Bool.and_self, if_true,
      h.position.atLineStart.2, hline, hat.inside, State.leave, hat.stack]
  have hgathering : Gathering (({ s.atLineStart.2 with inside := true } : State).leave ['\n']) past
      (e.opened ++ rest) (['\n'] :: left) stash [] [] :=
    ⟨⟨hat.position.source, hat.position.line, hat.position.column, hat.position.starts⟩, rfl,
      hat.behind, hat.inline, congrArg (['\n'] :: ·) hat.left, hat.stash, hat.gathered, hat.stack⟩
  obtain ⟨htoken, hdeclaration⟩ := e.token_opened hhr s.behind rest
  refine ⟨_, ((hgathering.withStack [e.key]).gather e.opened).advance,
    passes_token e.opened_mark hdeclaration htoken ?_⟩
  rw [State.take, hverbatim, if_neg Bool.false_ne_true, hstart]

/-- An element that stands on lines of its own. -/
def IsElement (t : Text) : Prop :=
  ∃ (e : Tag) (inner : Text), t = e.opened ++ (inner ++ e.closed) ∧ Content inner ∧
    isBlockTag e.key = true ∧ State.isVoid e.key = false ∧ State.isOpaque e.key = false

/-- An element that begins a line is gathered up to its end tag. -/
theorem Reading.element {e : Tag} {inner : Text}
    (h : Reading s past (e.opened ++ (inner ++ (e.closed ++ rest))) left stash)
    (hinner : Content inner) (hblock : isBlockTag e.key = true) (hvoid : State.isVoid e.key = false)
    (hverbatim : State.isOpaque e.key = false)
    (hline : (decide ((lastLine past).length ≤ 3) && Text.allBlank (lastLine past)) = true) :
    ∃ s' open', Gathering s' (past ++ e.opened ++ inner) (e.closed ++ rest) (['\n'] :: left) stash
        (e.opened ++ inner) (open' ++ [e.key]) ∧ e.key ∉ open' ∧
      Passes s (e.opened ++ (inner ++ (e.closed ++ rest))) s' (e.closed ++ rest) := by
  have hhr : e.key ≠ "hr".toList := fun h => by
    rw [h] at hvoid
    exact absurd hvoid (by decide)
  obtain ⟨s₁, h₁, hpass₁⟩ := h.opened e hblock hverbatim hhr hline
  obtain ⟨s₂, open', h₂, hopen, hpass₂⟩ := h₁.content hinner (by simp) (by simp [Tag.closed])
  refine ⟨s₂, open', h₂, fun hmem => ?_, hpass₁.trans hpass₂⟩
  rw [hopen _ hmem] at hvoid
  cases hvoid

/-- **An element that begins a line is one piece**, with a blank line behind it. -/
theorem Reading.element_kept {t : Text} (h : Reading s past (t ++ rest) left stash)
    (ht : IsElement t)
    (hline : (decide ((lastLine past).length ≤ 3) && Text.allBlank (lastLine past)) = true)
    (hblank : State.blankFollows rest = true) :
    ∃ s', Reading s' (past ++ t) rest
        ("\n\n".toList :: Stash.placeholder stash.entries.length :: ['\n'] :: left)
        (stash.store (.html (t ++ ['\n']))).2 ∧
      Passes s (t ++ rest) s' rest := by
  obtain ⟨e, inner, rfl, hinner, hblock, hvoid, hverbatim⟩ := ht
  simp only [List.append_assoc] at h ⊢
  obtain ⟨s₁, open', h₁, hopen, hpass₁⟩ := h.element hinner hblock hvoid hverbatim hline
  obtain ⟨s₂, h₂, hpass₂⟩ := h₁.close e hopen hblank
  exact ⟨s₂, by simpa only [List.append_assoc] using h₂, hpass₁.trans hpass₂⟩

/-- **An element that begins a line is one piece**, with text below it on the next line. -/
theorem Reading.element_kept_line {t u : Text} (h : Reading s past (t ++ (u ++ rest)) left stash)
    (ht : IsElement t)
    (hline : (decide ((lastLine past).length ≤ 3) && Text.allBlank (lastLine past)) = true)
    (hblank : State.blankFollows (u ++ rest) = false) (hu : '\n' ∈ u ∧ IsProse u)
    (hrest : ∀ c ∈ rest.head?, c = '<' ∨ c = '&') :
    ∃ s', Reading s' (past ++ t ++ u) rest
        (u :: "\n\n".toList :: Stash.placeholder stash.entries.length :: ['\n'] :: left)
        (stash.store (.html t)).2 ∧
      Passes s (t ++ (u ++ rest)) s' rest := by
  obtain ⟨e, inner, rfl, hinner, hblock, hvoid, hverbatim⟩ := ht
  simp only [List.append_assoc] at h ⊢
  obtain ⟨s₁, open', h₁, hopen, hpass₁⟩ := h.element hinner hblock hvoid hverbatim hline
  obtain ⟨s₂, h₂, hpass₂⟩ := h₁.close_line e hopen hblank hu.1 hu.2 hrest
  exact ⟨s₂, by simpa only [List.append_assoc] using h₂, hpass₁.trans hpass₂⟩

end MathPage.Markdown.RawHtml
