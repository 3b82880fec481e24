import MathPage.Markdown.Block.Document
import MathPage.Proofs.Text.Lines

/-!
# Paragraphs

* `IsBare` – lines that no mark of a block opens, except perhaps that of a quote;
* `first_eq_paragraph` – a block of one such line is a paragraph;
* `first_eq_quoted` – a block of lines behind quotation marks is a quote, unless it is a table.
-/

namespace MathPage.Markdown.Block

/-- The marks that may open a line and make it more than a line of a paragraph or of a quote. -/
def marks : Text := "$\\#-_*+:[".toList

/-- A line that no mark of a block opens, except perhaps that of a quote, and no number. -/
structure IsBare (l : Text) : Prop where
  visible : ∃ c ∈ l.head?, Text.isBlank c = false
  free : ∀ c ∈ l.head?, c ∉ marks ∧ Text.isNumeral c = false

namespace IsBare

variable {l : Text}

theorem exists_cons (h : IsBare l) :
    ∃ c t, l = c :: t ∧ Text.isBlank c = false ∧ c ∉ marks ∧ Text.isNumeral c = false := by
  obtain ⟨c, hc, hblank⟩ := h.visible
  rcases l with _ | ⟨x, t⟩
  · cases hc
  · obtain rfl := Option.some.inj hc
    exact ⟨x, t, rfl, hblank, h.free x rfl⟩

theorem head?_ne (h : IsBare l) {c : Char} (hc : Text.isBlank c = true ∨ c ∈ marks) :
    l.head? ≠ some c := fun hhead => by
  obtain ⟨x, hx, hblank⟩ := h.visible
  obtain rfl := Option.some.inj (hx.symm.trans hhead)
  rcases hc with hc | hc
  · rw [hblank] at hc
    cases hc
  · exact (h.free x hhead).1 hc

theorem outdent_eq_self (h : IsBare l) : outdent l = l := by
  obtain ⟨c, t, rfl, hblank, -, -⟩ := h.exists_cons
  have hc : (c == ' ') = false := beq_eq_false_iff_ne.2 fun hc => by
    rw [hc] at hblank
    cases hblank
  simp [outdent, hc]

theorem marker?_eq_none (h : IsBare l) : marker? l = none := by
  obtain ⟨c, t, rfl, -, hfree, hnumeral⟩ := h.exists_cons
  have hbullet : "*+-".toList.contains c = false := by
    have hsub : ∀ x ∈ "*+-".toList, x ∈ marks := by decide
    rw [Bool.eq_false_iff]
    intro hmem
    exact hfree (hsub c (List.contains_iff_mem.1 hmem))
  unfold marker?
  simp only [hbullet, Bool.false_eq_true, if_false, hnumeral]
  split <;> rfl

theorem item?_eq_none (h : IsBare l) : item? l = none := by
  rw [item?, h.outdent_eq_self, h.marker?_eq_none]

theorem definition?_eq_none (h : IsBare l) : definition? l = none := by
  rw [definition?, h.outdent_eq_self]
  split
  · exact absurd rfl (h.head?_ne (Or.inr (by decide)))
  · rfl

theorem hashLine?_eq_none (h : IsBare l) : hashLine? l = none := by
  obtain ⟨c, t, rfl, -, hfree, -⟩ := h.exists_cons
  have hc : (c == '#') = false := beq_eq_false_iff_ne.2 fun hc => hfree (hc ▸ by decide)
  simp [hashLine?, hc]

theorem isRule_eq_false (h : IsBare l) : isRule l = false := by
  obtain ⟨c, t, rfl, hblank, hfree, -⟩ := h.exists_cons
  have hc : (c == ' ') = false := beq_eq_false_iff_ne.2 fun hc => by
    rw [hc] at hblank
    cases hblank
  have hmark : "-_*".toList.contains c = false := by
    have hsub : ∀ x ∈ "-_*".toList, x ∈ marks := by decide
    rw [Bool.eq_false_iff]
    intro hmem
    exact hfree (hsub c (List.contains_iff_mem.1 hmem))
  unfold isRule
  simp only [List.dropWhile_cons, hc, Bool.false_eq_true, if_false, hmark, Bool.false_and,
    Bool.and_false]

end IsBare

/-! ### Rules that apply to other blocks -/

theorem findLine_eq_none {α : Type} {f : Text → Option α} {ls : List Text}
    (h : ∀ l ∈ ls, f l = none) : findLine f ls = none := by
  induction ls with
  | nil => rfl
  | cons l ls ih =>
    rw [findLine, h l List.mem_cons_self, ih fun l' hl' => h l' (List.mem_cons_of_mem _ hl')]
    rfl

/-- The rules in front of the one for quotes. -/
def front : List Rule :=
  [blank, continued .plain, continued .definition, code, mathematics, table, hashHeading,
    underlined, rule, listOf true, listOf false, definitions]

theorem rules_eq : rules .extended = front ++ [quoted, abbreviated, referred, paragraph] := rfl

open Pattern in
theorem formulaBlock_eq_none {block : Text} (h : ∀ c ∈ "$\\".toList, block.head? ≠ some c) :
    formulaBlock.opening? block = none := by
  have hrun : formulaBlock.run (Cursor.start block) some = none := by
    refine run_eq_none (fun t' hleaves => ?_) some
    obtain ⟨u, hleaves, -⟩ := hleaves
    rcases hleaves with hleaves | hleaves | hleaves
    · obtain ⟨v, hv, -⟩ := hleaves
      exact h '$' (by decide) (congrArg List.head? hv)
    · obtain ⟨v, hv, -⟩ := hleaves
      exact h '\\' (by decide) (congrArg List.head? hv)
    · obtain ⟨v, hv, -⟩ := hleaves
      exact h '\\' (by decide) (congrArg List.head? hv)
  rw [opening?, at?, hrun]
  rfl

/-- A block that starts with a character that is not blank is not empty. -/
theorem blank_eq_none {block : Text} {c : Char} (hhead : block.head? = some c)
    (hc : Text.isBlank c = false) (parse : Parse) (mode : Mode) (parent : Element)
    (rest : List Text) (defs : Definitions) : blank parse mode parent block rest defs = none := by
  unfold blank
  split
  · cases hhead
  · obtain rfl := Option.some.inj hhead
    cases hc
  · rfl

/-- A block that starts with a character that is not blank is not indented. -/
theorem opens_tab_eq_false {block : Text} {c : Char} (hhead : block.head? = some c)
    (hc : Text.isBlank c = false) : Text.opens tab block = false := by
  rw [Bool.eq_false_iff]
  intro hopens
  obtain ⟨t, ht⟩ := Option.isSome_iff_exists.1 hopens
  rw [Text.eq_append_of_after? ht] at hhead
  obtain rfl := Option.some.inj hhead
  cases hc

section

variable {block l : Text} {ls : List Text} (hlines : Text.lines block = l :: ls)
  (hhead : block.head? = l.head?) (hbare : ∀ l' ∈ l :: ls, IsBare l')
include hlines hhead hbare

/-- No rule in front of the one for quotes applies. -/
theorem first_front_eq_none (htable : table? block = none)
    (hunder : ∀ l' ∈ ls.head?, underline? l' = none) (parse : Parse) (mode : Mode)
    (parent : Element) (rest : List Text) (defs : Definitions) :
    first front parse mode parent block rest defs = none := by
  have hfirst := hbare l List.mem_cons_self
  obtain ⟨c, hc, hblank⟩ := hfirst.visible
  have hstart : block.head? = some c := hhead.trans hc
  have htab : Text.opens tab block = false := opens_tab_eq_false hstart hblank
  have hcontinued : ∀ f : Family, continued f parse mode parent block rest defs = none :=
    fun f => by
      unfold continued
      simp only [htab, Bool.false_and, Bool.false_eq_true, if_false]
  have hlist : ∀ numbered, listOf numbered parse mode parent block rest defs = none :=
    fun numbered => by
      unfold listOf
      rw [hlines, List.headD_cons, hfirst.item?_eq_none]
  refine List.findSome?_eq_none_iff.2 fun r hr => ?_
  simp only [front, List.mem_cons, List.not_mem_nil, or_false] at hr
  rcases hr with rfl | rfl | rfl | rfl | rfl | rfl | rfl | rfl | rfl | rfl | rfl | rfl
  · exact blank_eq_none hstart hblank _ _ _ _ _
  · exact hcontinued _
  · exact hcontinued _
  · unfold code
    simp only [htab, Bool.false_eq_true, if_false]
  · unfold mathematics
    rw [formulaBlock_eq_none fun c hc => ?_, Option.map_none]
    have hmarks : ∀ c ∈ "$\\".toList, c ∈ marks := by decide
    exact hhead ▸ hfirst.head?_ne (Or.inr (hmarks c hc))
  · unfold table
    rw [htable, Option.map_none]
  · unfold hashHeading
    rw [hlines, findLine_eq_none fun l' hl' => (hbare l' hl').hashLine?_eq_none]
  · unfold underlined
    rw [hlines]
    rcases ls with _ | ⟨l', ls⟩
    · rfl
    · simp only [hunder l' rfl, Option.map_none]
  · unfold rule
    rw [hlines, findLine_eq_none fun l' hl' => ?_]
    simp only [(hbare l' hl').isRule_eq_false, Bool.false_eq_true, if_false]
  · exact hlist true
  · exact hlist false
  · unfold definitions
    rw [hlines, findLine_eq_none fun l' hl' => (hbare l' hl').definition?_eq_none]

/-- **A block of lines behind quotation marks is a quote**, unless it is a table. -/
theorem first_eq_quoted (hquote : quoted? l ≠ none) (htable : table? block = none)
    (hunder : ∀ l' ∈ ls.head?, underline? l' = none) (parse : Parse) (mode : Mode)
    (parent : Element) (rest : List Text) (defs : Definitions) :
    first (rules .extended) parse mode parent block rest defs =
      quoted parse mode parent block rest defs := by
  have hfront := first_front_eq_none hlines hhead hbare htable hunder parse mode parent rest defs
  obtain ⟨t, ht⟩ := Option.ne_none_iff_exists'.1 hquote
  have hline : findLine (fun l => (quoted? l).map fun _ => l) (l :: ls) = some ([], l, ls) := by
    simp only [findLine, ht, Option.map_some]
  have hsome : (quoted parse mode parent block rest defs).isSome := by
    unfold quoted
    rw [hlines, hline]
    rfl
  obtain ⟨step, hstep⟩ := Option.isSome_iff_exists.1 hsome
  unfold first at hfront ⊢
  rw [rules_eq, List.findSome?_append, hfront, Option.none_or, List.findSome?_cons, hstep]

end

/-! ### Blocks of one line -/

section

open Pattern

variable {block : Text} (hopen : ∀ l ∈ Text.lines block, ∀ c ∈ "*[ ".toList, l.head? ≠ some c)
include hopen

/-- Where no line starts with an asterisk, no abbreviation is defined. -/
theorem find?_abbreviation_eq_none : abbreviation.find? block = none := by
  obtain ⟨p, hp⟩ : ∃ p, abbreviation = .seq lineStart (.seq (str "*[") p) := ⟨_, rfl⟩
  rw [hp]
  refine Text.findFrom?_lineStart_eq_none (by decide) (fun v t' hleaves => ?_) hopen 0
  obtain ⟨u, hu, -⟩ := hleaves
  exact ⟨'*', by decide, congrArg List.head? hu⟩

/-- Where no line starts with a bracket, spaces in front of it or not, no reference is defined. -/
theorem find?_reference_eq_none : reference.find? block = none := by
  obtain ⟨p, hp⟩ : ∃ p, reference =
      .seq lineStart (.seq (between 0 3 (char ' ')) (.seq (char '[') p)) := ⟨_, rfl⟩
  rw [hp]
  refine Text.findFrom?_lineStart_eq_none (by decide) (fun v t' hleaves => ?_) hopen 0
  obtain ⟨u, ⟨n, -, hrounds⟩, w, ⟨x, hx, hbracket⟩, -⟩ := hleaves
  obtain ⟨ws, rfl, -, hws⟩ := hrounds.of_one
  rcases ws with _ | ⟨y, ws⟩
  · exact ⟨'[', by decide, by rw [hx, eq_of_beq hbracket]; rfl⟩
  · exact ⟨' ', by decide, by rw [eq_of_beq (hws y List.mem_cons_self)]; rfl⟩

end

theorem IsBare.quoted?_eq_none {l : Text} (h : IsBare l) (hquote : l.head? ≠ some '>') :
    quoted? l = none := by
  unfold quoted?
  rw [h.outdent_eq_self]
  split
  · exact absurd rfl hquote
  · exact absurd rfl hquote
  · rfl

/-- **A block of one line without marks is a paragraph.** -/
theorem first_eq_paragraph {block : Text} (hline : '\n' ∉ block) (hbare : IsBare block)
    (hquote : block.head? ≠ some '>') (parse : Parse) (mode : Mode) (parent : Element)
    (rest : List Text) (defs : Definitions) :
    first (rules .extended) parse mode parent block rest defs =
      paragraph parse mode parent block rest defs := by
  have hlines := Text.lines_of_not_mem hline
  have hall : ∀ l ∈ [block], IsBare l := fun l hl => List.mem_singleton.1 hl ▸ hbare
  have htable : table? block = none := by
    unfold table?
    rw [hlines]
    rfl
  have hfront := first_front_eq_none hlines rfl hall htable (fun _ h => by cases h) parse mode
    parent rest defs
  have hquoted : quoted parse mode parent block rest defs = none := by
    unfold quoted
    rw [hlines, findLine_eq_none fun l hl => ?_]
    rw [List.mem_singleton.1 hl, hbare.quoted?_eq_none hquote, Option.map_none]
  have hopen : ∀ l ∈ Text.lines block, ∀ c ∈ "*[ ".toList, l.head? ≠ some c := by
    have hmarks : ∀ c ∈ "*[ ".toList, Text.isBlank c = true ∨ c ∈ marks := by decide
    rw [hlines]
    intro l hl c hc
    rw [List.mem_singleton.1 hl]
    exact hbare.head?_ne (hmarks c hc)
  have habbreviated : abbreviated parse mode parent block rest defs = none := by
    unfold abbreviated
    rw [find?_abbreviation_eq_none hopen]
  have hreferred : referred parse mode parent block rest defs = none := by
    unfold referred
    rw [find?_reference_eq_none hopen, Option.map_none]
  unfold first at hfront ⊢
  rw [rules_eq, List.findSome?_append, hfront, Option.none_or]
  simp only [List.findSome?_cons, hquoted, habbreviated, hreferred]
  rcases paragraph parse mode parent block rest defs with _ | step
  · rfl
  · rfl

/-! ### Reading paragraphs -/

variable {block : Text}

theorem IsBare.stripLeft (h : IsBare block) : Text.stripLeft block = block := by
  obtain ⟨c, t, rfl, hblank, -, -⟩ := h.exists_cons
  exact List.dropWhile_cons_of_neg (by rw [hblank]; decide)

theorem IsBare.allBlank (h : IsBare block) : Text.allBlank block = false := by
  obtain ⟨c, t, rfl, hblank, -, -⟩ := h.exists_cons
  rw [Text.allBlank, List.all_cons, hblank, Bool.false_and]

/-- A block of one line without marks is read into a new paragraph. -/
theorem parse_paragraph (hline : '\n' ∉ block) (hbare : IsBare block)
    (hquote : block.head? ≠ some '>') {mode : Mode} (hmode : mode ≠ .list) (fuel : ℕ)
    (parent : Element) (rest : List Text) (defs : Definitions) :
    parse (rules .extended) (fuel + 1) mode parent (block :: rest) defs =
      parse (rules .extended) fuel mode (parent.push (Element.leaf "p" block)) rest defs := by
  rw [parse, first_eq_paragraph hline hbare hquote]
  unfold paragraph
  simp only [hbare.allBlank, Bool.false_eq_true, if_false, hmode, hbare.stripLeft]

/-- A block of one line without marks is the text of an empty item. -/
theorem parse_text (hline : '\n' ∉ block) (hbare : IsBare block) (hquote : block.head? ≠ some '>')
    (fuel : ℕ) (parent : Element) (hempty : parent.children = [] ∧ parent.text = none)
    (rest : List Text) (defs : Definitions) :
    parse (rules .extended) (fuel + 1) .list parent (block :: rest) defs =
      parse (rules .extended) fuel .list { parent with text := some block } rest defs := by
  rw [parse, first_eq_paragraph hline hbare hquote]
  unfold paragraph
  simp only [hbare.allBlank, Bool.false_eq_true, if_false, if_true, hempty.1, List.isEmpty_nil,
    hempty.2, continueText, hbare.stripLeft]

end MathPage.Markdown.Block
