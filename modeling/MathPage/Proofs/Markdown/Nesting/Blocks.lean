import MathPage.Proofs.Document.Stash
import MathPage.Proofs.Markdown.Block.Paragraph
import MathPage.Proofs.Markdown.Nesting.Source

/-!
# The trees of two comments

* `Nesting.document_placeholders`, `Nesting.document_quoted`, `Nesting.document_listed` – the paragraphs
  that two comments make in a document, in a quote and in a list item.
-/

namespace MathPage.Markdown

/-! ### Steps over blocks -/

namespace Block

variable {d : Dialect}

theorem parse_nil (rules : List Rule) (fuel : ℕ) (mode : Mode) (parent : Element)
    (defs : Definitions) : parse rules fuel mode parent [] defs = (parent, defs) := by
  cases fuel <;> rfl

/-- An empty block counts only behind code. -/
theorem parse_blank {parent : Element} (hcode : parent.last?.any isCode = false) (fuel : ℕ)
    (mode : Mode) (rest : List Text) (defs : Definitions) :
    parse (rules .extended) (fuel + 1) mode parent ([] :: rest) defs =
      parse (rules .extended) fuel mode parent rest defs := by
  have hfirst : first (rules .extended) (parse (rules .extended) fuel) mode parent [] rest defs =
      some ⟨extendLastCode "\n\n".toList parent, rest, defs⟩ := rfl
  rw [parse, hfirst]
  simp only [extendLastCode, hcode, Bool.false_eq_true, if_false]

/-- A line end in front of a block is left out, unless it is behind code. -/
theorem parse_lineEnd {parent : Element} (hcode : parent.last?.any isCode = false) (fuel : ℕ)
    (mode : Mode) (t : Text) (rest : List Text) (defs : Definitions) :
    parse (rules .extended) (fuel + 1) mode parent (('\n' :: t) :: rest) defs =
      parse (rules .extended) fuel mode parent (before t rest) defs := by
  have hfirst : first (rules .extended) (parse (rules .extended) fuel) mode parent ('\n' :: t) rest
      defs = some ⟨extendLastCode ['\n'] parent, before t rest, defs⟩ := rfl
  rw [parse, hfirst]
  simp only [extendLastCode, hcode, Bool.false_eq_true, if_false]

/-- What stands in front of the first empty line is a block. -/
theorem split_block {t : Text} (ht : Text.Apart '\n' '\n' t) (hlast : t.getLast? ≠ some '\n')
    (u : Text) : split (t ++ ("\n\n".toList ++ u)) = t :: split u :=
  Text.split_append ht hlast u

/-- A line in front of an empty line is a block. -/
theorem split_line {t : Text} (ht : '\n' ∉ t) (u : Text) :
    split (t ++ ("\n\n".toList ++ u)) = t :: split u :=
  split_block (Text.apart_of_not_mem ht) (fun hlast => ht (List.mem_of_getLast? hlast)) u

theorem split_singleton {t : Text} (ht : '\n' ∉ t) : split t = [t] :=
  Text.split_eq_singleton (Text.apart_of_not_mem ht)

theorem isBare_cons {c : Char} (hc : Text.isBlank c = false ∧ c ∉ marks ∧ Text.isNumeral c = false)
    (t : Text) : IsBare (c :: t) :=
  ⟨⟨c, rfl, hc.1⟩, fun _ hx => Option.some.inj hx ▸ hc.2⟩

end Block

namespace Nesting

open Block
open Marker (IsComment)

/-- A document of two paragraphs. -/
def page (p q : Element) : Element := .node "div" [p, q]

/-- A quote of two paragraphs. -/
def quote (p q : Element) : Element := .node "div" [.node "blockquote" [p, q]]

/-- An item of a list whose text has become a paragraph, without its children. -/
def bareItem : Element := { tag := "li".toList, text := some [] }

/-- An item of a list with two paragraphs behind its first one. -/
def list (p q : Element) : Element :=
  .node "div" [.node "ul" [{ bareItem with children := [Element.leaf "p" "item".toList, p, q] }]]

theorem isBare_placeholder (n : ℕ) : IsBare (Stash.placeholder n) := isBare_cons (by decide) _

theorem isBare_comment {t : Text} (ht : IsComment t) : IsBare t := by
  obtain ⟨u, rfl⟩ := ht.exists_cons
  exact isBare_cons (by decide) u

theorem head?_comment {t : Text} (ht : IsComment t) : t.head? ≠ some '>' := by
  obtain ⟨u, rfl⟩ := ht.exists_cons
  exact fun h => absurd (Option.some.inj h) (by decide)

theorem newline_not_mem_placeholder (n : ℕ) : '\n' ∉ Stash.placeholder n :=
  Stash.not_mem_placeholder (by decide) rfl n

/-- A placeholder, perhaps with a line end in front. -/
def placed (p : Bool × ℕ) : Text :=
  if p.1 then '\n' :: Stash.placeholder p.2 else Stash.placeholder p.2

/-- Placeholders with blank lines behind them. -/
def placeholders (ps : List (Bool × ℕ)) : Text := ps.flatMap fun p => placed p ++ "\n\n\n\n".toList

theorem split_placed (p : Bool × ℕ) (u : Text) :
    split (placed p ++ ("\n\n".toList ++ u)) = placed p :: split u := by
  obtain ⟨lead, n⟩ := p
  have hline := newline_not_mem_placeholder n
  cases lead with
  | false => exact split_line hline u
  | true =>
    have hapart : Text.Apart '\n' '\n' ['\n'] := by decide
    refine split_block (hapart.append (Text.apart_of_not_mem hline) (Or.inr ?_)) ?_ u
    · exact fun h => by cases h
    · exact fun h => hline (List.mem_of_getLast? h)

theorem split_placeholders (ps : List (Bool × ℕ)) :
    split (placeholders ps) = ps.flatMap (fun p => [placed p, []]) ++ [[]] := by
  induction ps with
  | nil => rfl
  | cons p ps ih =>
    have hcut : placeholders (p :: ps) =
        placed p ++ ("\n\n".toList ++ ([] ++ ("\n\n".toList ++ placeholders ps))) := by
      simp [placeholders]
    rw [hcut, split_placed, split_line List.not_mem_nil, ih]
    rfl

theorem parse_placeholders (ps : List (Bool × ℕ)) {parent : Element}
    (hcode : parent.last?.any isCode = false) {fuel : ℕ} (hfuel : 3 * ps.length < fuel)
    (defs : Definitions) : parse (rules .extended) fuel .page parent
        (ps.flatMap (fun p => [placed p, []]) ++ [[]]) defs =
      (ps.foldl (fun e p => e.push (Stash.image p.2)) parent, defs) := by
  induction ps generalizing parent fuel with
  | nil =>
    obtain ⟨fuel, rfl⟩ := Nat.exists_eq_succ_of_ne_zero (Nat.ne_zero_of_lt hfuel)
    rw [List.flatMap_nil, List.nil_append, parse_blank hcode, parse_nil, List.foldl_nil]
  | cons p ps ih =>
    obtain ⟨lead, n⟩ := p
    rw [List.length_cons] at hfuel
    obtain ⟨fuel, rfl⟩ : ∃ k, fuel = k + 3 := ⟨fuel - 3, by omega⟩
    have hline := newline_not_mem_placeholder n
    have hquote : (Stash.placeholder n).head? ≠ some '>' := fun h => by cases h
    have hpushed : (parent.push (Stash.image n)).last?.any isCode = false := by
      rw [Element.last?, Element.push, List.getLast?_append_of_ne_nil _ (List.cons_ne_nil _ _)]
      rfl
    have hstep : ∀ fuel rest, parse (rules .extended) (fuel + 2) .page parent
        (Stash.placeholder n :: [] :: rest) defs =
          parse (rules .extended) fuel .page (parent.push (Stash.image n)) rest defs :=
      fun fuel rest => by
        rw [parse_paragraph hline (isBare_placeholder n) hquote (by decide)]
        exact parse_blank hpushed fuel .page rest defs
    rw [List.foldl_cons]
    cases lead with
    | false =>
      exact (hstep (fuel + 1) _).trans (@ih _ hpushed (fuel + 1) (by omega))
    | true =>
      refine (parse_lineEnd hcode (fuel + 2) .page (Stash.placeholder n) _ defs).trans ?_
      exact (hstep fuel _).trans (@ih _ hpushed fuel (by omega))

theorem foldl_push (ps : List (Bool × ℕ)) (es : List Element) :
    ps.foldl (fun (e : Element) p => e.push (Stash.image p.2)) (.node "div" es) =
      .node "div" (es ++ ps.map fun p => Stash.image p.2) := by
  induction ps generalizing es with
  | nil => rw [List.map_nil, List.append_nil, List.foldl_nil]
  | cons p ps ih =>
    rw [List.foldl_cons, List.map_cons, List.append_cons]
    exact ih (es ++ [Stash.image p.2])

/-- **The paragraphs of placeholders.** -/
theorem document_placeholders (ps : List (Bool × ℕ)) :
    document .extended (placeholders ps) {} =
      (.node "div" (ps.map fun p => Stash.image p.2), {}) := by
  have hlength : ps.length ≤ (placeholders ps).length := by
    induction ps with
    | nil => exact Nat.zero_le _
    | cons p ps ih =>
      have hcut : placeholders (p :: ps) =
          placed p ++ "\n\n\n\n".toList ++ placeholders ps := rfl
      rw [hcut, List.length_append, List.length_append, List.length_cons]
      have hfour : "\n\n\n\n".toList.length = 4 := rfl
      omega
  unfold document
  rw [split_placeholders, parse_placeholders ps rfl (by omega), foldl_push, List.nil_append]

/-! ### A quote -/

/-- A comment behind a quotation mark, as the text between two visible characters. -/
theorem exists_mark_comment {t : Text} (ht : IsComment t) :
    ∃ u, "> ".toList ++ t = '>' :: u ++ ['>'] := by
  rcases List.eq_nil_or_concat t with rfl | ⟨v, c, rfl⟩
  · exact absurd rfl ht.ne_nil
  · have hlast := ht.getLast?_eq
    rw [List.concat_eq_append, List.getLast?_concat] at hlast
    exact ⟨' ' :: v, by rw [Option.some.inj hlast, List.concat_eq_append]; rfl⟩

theorem unquote_comment {t : Text} (ht : IsComment t) : unquote ("> ".toList ++ t) = t := by
  obtain ⟨v, hv⟩ := exists_mark_comment ht
  have hstrip : Text.strip ("> ".toList ++ t) ≠ ['>'] := by
    rw [hv, Text.strip_eq_self (by decide) (by decide)]
    simp
  rw [unquote, if_neg hstrip]
  rfl

/-- The lines of a quote. -/
def quotedLines (a b : Text) : List Text := ["> ".toList ++ a, "> ".toList, "> ".toList ++ b]

section

variable {a b : Text} (ha : IsComment a) (hb : IsComment b)
include ha hb

theorem lines_quoted : Text.lines (Text.unlines (quotedLines a b)) = quotedLines a b := by
  have hmark : '\n' ∉ "> ".toList := by decide
  refine Text.lines_unlines (List.cons_ne_nil _ _) fun l hl hmem => ?_
  simp only [quotedLines, List.mem_cons, List.not_mem_nil, or_false] at hl
  rcases hl with rfl | rfl | rfl
  · exact (List.mem_append.1 hmem).elim hmark ha.newline_not_mem
  · exact hmark hmem
  · exact (List.mem_append.1 hmem).elim hmark hb.newline_not_mem

/-- The lines of a quote are no rows of a table: the second has one cell. -/
theorem table?_quoted : table? (Text.unlines (quotedLines a b)) = none := by
  obtain ⟨u, hu⟩ := exists_mark_comment ha
  have hheader : Row.trimmed ("> ".toList ++ a) = '>' :: u ++ ['>'] := by
    rw [hu, Row.trimmed, Text.trim_eq_self (by decide) (by decide)]
  have hborder : Row.hasBorder ('>' :: u ++ ['>']) = false := by
    simp [Row.hasBorder, Row.hasEndBorder, Text.opens, Text.after?]
  have hmarks : Row.cells false (Row.trimmed "> ".toList) = [['>']] := by decide
  unfold table?
  rw [lines_quoted ha hb]
  simp only [quotedLines, List.map_cons, List.map_nil, hheader, hborder, hmarks]
  refine if_neg fun h => ?_
  simp only [Bool.false_and, Bool.or_false, Bool.and_eq_true, decide_eq_true_eq,
    List.length_singleton, beq_iff_eq] at h
  omega

theorem split_quoted : split (Text.unlines (quotedLines a b) ++ ("\n\n".toList ++ [])) =
    [Text.unlines (quotedLines a b), []] := by
  have hfirst := ha.newline_not_mem
  have hsecond := hb.newline_not_mem
  have hjoin : Text.unlines (quotedLines a b) =
      "> ".toList ++ (a ++ ("\n> \n> ".toList ++ b)) := by
    simp [quotedLines, Text.unlines, Text.join]
  have hapart : Text.Apart '\n' '\n' (Text.unlines (quotedLines a b)) := by
    have hopen : Text.Apart '\n' '\n' "> ".toList := by decide
    have hmiddle : Text.Apart '\n' '\n' "\n> \n> ".toList := by decide
    rw [hjoin]
    refine hopen.append ((Text.apart_of_not_mem hfirst).append
      (hmiddle.append (Text.apart_of_not_mem hsecond) (Or.inl (by decide))) (Or.inl ?_))
      (Or.inl (by decide))
    exact fun hlast => hfirst (List.mem_of_getLast? hlast)
  have hlast : (Text.unlines (quotedLines a b)).getLast? ≠ some '\n' := by
    rw [hjoin, ← List.append_assoc, ← List.append_assoc,
      List.getLast?_append_of_ne_nil _ hb.ne_nil]
    exact fun hlast => hsecond (List.mem_of_getLast? hlast)
  exact Text.split_append hapart hlast []

/-- The rule for quotes reads the two comments into paragraphs. -/
theorem quoted_quotedLines (fuel : ℕ) (rest : List Text) :
    Block.quoted (parse (rules .extended) (fuel + 2)) .page (.node "div" [])
      (Text.unlines (quotedLines a b)) rest {} =
        some ⟨quote (Element.leaf "p" a) (Element.leaf "p" b), rest, {}⟩ := by
  have hline : findLine (fun l => (quoted? l).map fun _ => l) (quotedLines a b) =
      some ([], "> ".toList ++ a, ["> ".toList, "> ".toList ++ b]) := rfl
  have hunquote : ["> ".toList ++ a, "> ".toList, "> ".toList ++ b].map unquote = [a, [], b] := by
    simp only [List.map_cons, List.map_nil, unquote_comment ha, unquote_comment hb]
    rfl
  have hinside : split (Text.unlines [a, [], b]) = [a, b] := by
    have htwo : Text.unlines [a, [], b] = a ++ ("\n\n".toList ++ b) := by
      simp [Text.unlines, Text.join]
    rw [htwo, split_line ha.newline_not_mem, split_singleton hb.newline_not_mem]
  have habove : Text.unlines [] = [] := rfl
  have hempty : parse (rules .extended) (fuel + 2) .page (.node "div" []) [[]] {} =
      (.node "div" [], {}) := by
    rw [parse_blank rfl, parse_nil]
  have hopen : (if (lastOneOf? ["blockquote"] (.node "div" [])).isSome then .node "div" []
      else (Element.node "div" []).push (.node "blockquote" [])) =
        Element.node "div" [.node "blockquote" []] := rfl
  have hinto : intoLast (parse (rules .extended) (fuel + 2)) .quote
      (.node "div" [.node "blockquote" []]) [a, b] {} =
        (quote (Element.leaf "p" a) (Element.leaf "p" b), {}) := by
    have hlast : (Element.node "div" [.node "blockquote" []]).last? =
      some (.node "blockquote" []) := rfl
    unfold intoLast
    rw [hlast]
    simp only
    rw [parse_paragraph ha.newline_not_mem (isBare_comment ha) (head?_comment ha) (by decide),
      parse_paragraph hb.newline_not_mem (isBare_comment hb) (head?_comment hb) (by decide),
      parse_nil]
    rfl
  unfold Block.quoted
  rw [lines_quoted ha hb, hline]
  simp only [habove, hempty, hopen, List.isEmpty_nil, if_true, hunquote, hinside, hinto]

/-- **The paragraphs of two comments in a quote.** -/
theorem document_quoted :
    document .extended ("> ".toList ++ (a ++ ("\n> \n> ".toList ++ (b ++ "\n\n".toList)))) {} =
      (quote (Element.leaf "p" a) (Element.leaf "p" b), {}) := by
  have hbare : ∀ l ∈ quotedLines a b, IsBare l := fun l hl => by
    simp only [quotedLines, List.mem_cons, List.not_mem_nil, or_false] at hl
    rcases hl with rfl | rfl | rfl
    · exact isBare_cons (by decide) _
    · exact isBare_cons (by decide) _
    · exact isBare_cons (by decide) _
  have htext : "> ".toList ++ (a ++ ("\n> \n> ".toList ++ (b ++ "\n\n".toList))) =
      Text.unlines (quotedLines a b) ++ ("\n\n".toList ++ []) := by
    simp [quotedLines, Text.unlines, Text.join]
  unfold document
  rw [htext, split_quoted ha hb, parse, first_eq_quoted (lines_quoted ha hb) rfl hbare
    (fun hnone => by cases hnone) (table?_quoted ha hb)
    (fun l hl => Option.some.inj hl ▸ by decide), quoted_quotedLines ha hb]
  simp only
  rw [parse_blank rfl, parse_nil]

end

/-! ### A list item -/

/-- The indentation of a line is that of an item, and without it the line is the text of the item. -/
theorem detab_line {t : Text} (ht : IsComment t) :
    ((tab ++ t).takeWhile (· == ' ')).length / 4 = 1 ∧ looseDetab 1 (tab ++ t) = t := by
  constructor
  · obtain ⟨u, rfl⟩ := ht.exists_cons
    have hspaces : (tab ++ '<' :: u).takeWhile (· == ' ') = tab := by simp [tab]
    rw [hspaces]
    decide
  · have hline : '\n' ∉ tab ++ t := fun hmem =>
      (List.mem_append.1 hmem).elim (by decide) ht.newline_not_mem
    have hspace : List.replicate (4 * 1) ' ' = tab := rfl
    rw [looseDetab, hspace, Text.lines_of_not_mem hline]
    simp only [List.map_cons, List.map_nil, Text.after?_append, Option.getD_some]
    rfl

/-- A line is read into the last item of a list as a paragraph; the text of the item becomes one. -/
theorem enter_line {t : Text} (ht : IsComment t) {item : Element} (hitem : item.hasTag "li" = true)
    (fuel : ℕ) :
    Family.plain.enter (parse (rules .extended) (fuel + 1)) (.node "ul" [item]) t {} =
      (.node "ul" [(wrapText item).push (Element.leaf "p" t)], {}) := by
  have hitems : isOneOf Family.plain.items (.node "ul" [item]) = false := rfl
  have hlast : (lastOneOf? Family.plain.items (.node "ul" [item])).isSome = true := by
    have htag : isOneOf Family.plain.items item = true := by
      show ["li"].any item.hasTag = true
      rw [List.any_cons, hitem, Bool.true_or]
    exact Option.isSome_iff_exists.2 ⟨item, Option.filter_eq_some_iff.2 ⟨rfl, htag⟩⟩
  have hwrap : (Element.node "ul" [item]).updateLast wrapText = .node "ul" [wrapText item] := rfl
  have hchild : (Element.node "ul" [wrapText item]).last? = some (wrapText item) := rfl
  unfold Family.enter
  simp only [hitems, Bool.false_eq_true, if_false, hlast, if_true,
    split_singleton ht.newline_not_mem, hwrap]
  unfold intoLast
  rw [hchild]
  simp only
  rw [parse_paragraph ht.newline_not_mem (isBare_comment ht) (head?_comment ht) (by decide),
    parse_nil]
  rfl

/-- **An indented line continues the item at the end of a list.** -/
theorem parse_continued {t : Text} (ht : IsComment t) {item : Element}
    (hitem : item.hasTag "li" = true) (fuel : ℕ) (rest : List Text) :
    parse (rules .extended) (fuel + 2) .page (.node "div" [.node "ul" [item]])
        ((tab ++ t) :: rest) {} =
      parse (rules .extended) (fuel + 1) .page
        (.node "div" [.node "ul" [(wrapText item).push (Element.leaf "p" t)]]) rest {} := by
  have htab : Text.opens tab (tab ++ t) = true := by
    rw [Text.opens, Text.after?_append]
    rfl
  have hreach : Family.plain.reach 1 ((tab ++ t).length + 1) 0
      (.node "div" [.node "ul" [item]]) = (1, 1) := by
    obtain ⟨n, hn⟩ : ∃ n, (tab ++ t).length + 1 = n + 2 := ⟨3 + t.length, by
      have hlength : tab.length = 4 := by decide
      rw [List.length_append]
      omega⟩
    rw [hn]
    rfl
  obtain ⟨hdepth, hdetab⟩ := detab_line ht
  have hparent : isOneOf Family.plain.items (.node "div" [.node "ul" [item]]) = false := rfl
  have hlist : (lastOneOf? Family.plain.lists (.node "div" [.node "ul" [item]])).isSome = true := rfl
  have hplace : lastAt 1 (.node "div" [.node "ul" [item]]) = .node "ul" [item] := rfl
  have hmode : (Mode.page != Mode.detabbed) = true := rfl
  have hstep : continued .plain (parse (rules .extended) (fuel + 1)) .page
      (.node "div" [.node "ul" [item]]) (tab ++ t) rest {} =
        some ⟨.node "div" [.node "ul" [(wrapText item).push (Element.leaf "p" t)]], rest, {}⟩ := by
    unfold continued
    simp only [htab, hmode, hparent, hlist, Bool.false_or, Bool.and_true, if_true, hdepth,
      reduceCtorEq, if_false, hreach, hdetab, hplace, enter_line ht hitem, Bool.false_eq_true]
    rfl
  have hblank : blank (parse (rules .extended) (fuel + 1)) .page (.node "div" [.node "ul" [item]])
      (tab ++ t) rest {} = none := rfl
  have hfirst : first (rules .extended) (parse (rules .extended) (fuel + 1)) .page
      (.node "div" [.node "ul" [item]]) (tab ++ t) rest {} =
        some ⟨.node "div" [.node "ul" [(wrapText item).push (Element.leaf "p" t)]], rest, {}⟩ := by
    show List.findSome? _ (blank :: continued .plain :: _) = _
    rw [List.findSome?_cons, hblank, List.findSome?_cons, hstep]
  rw [parse, hfirst]

/-- An item that follows a bullet. -/
theorem first_item (fuel : ℕ) (rest : List Text) :
    first (rules .extended) (parse (rules .extended) (fuel + 1)) .page (.node "div" [])
      "- item".toList rest {} =
        some ⟨.node "div" [.node "ul" [{ tag := "li".toList, text := some "item".toList }]], rest,
          {}⟩ := by
  have hlist : first (rules .extended) (parse (rules .extended) (fuel + 1)) .page (.node "div" [])
      "- item".toList rest {} = listOf false (parse (rules .extended) (fuel + 1)) .page
        (.node "div" []) "- item".toList rest {} := rfl
  have hread : readItems (parse (rules .extended) (fuel + 1)) ["item".toList] (.node "ul" []) {} =
      (.node "ul" [{ tag := "li".toList, text := some "item".toList }], {}) := by
    have htab : Text.opens tab "item".toList = false := rfl
    simp only [readItems, htab, Bool.false_eq_true, if_false, child]
    have hbare : IsBare "item".toList := isBare_cons (c := 'i') (by decide) _
    rw [parse_text (by decide) hbare (by decide) _ _ ⟨rfl, rfl⟩, parse_nil]
    rfl
  have hkind : item? ((Text.lines "- item".toList).headD []) = some (false, "item".toList) := by
    decide
  have hitems : items "- item".toList = ["item".toList] := by decide
  have hnone : (lastOneOf? listTags (Element.node "div" [])).isSome = false := rfl
  have hparent : isOneOf listTags (Element.node "div" []) = false := rfl
  rw [hlist]
  unfold listOf
  rw [hkind]
  simp only [bne_self_eq_false, Bool.false_eq_true, if_false, hitems, hnone, hparent, hread]
  rfl

/-- **The paragraphs of two comments in a list item.** -/
theorem document_listed {a b : Text} (ha : IsComment a) (hb : IsComment b) :
    document .extended
      ("- item\n\n    ".toList ++ (a ++ ("\n\n    ".toList ++ (b ++ "\n\n".toList)))) {} =
        (list (Element.leaf "p" a) (Element.leaf "p" b), {}) := by
  have hline : ∀ t, IsComment t → '\n' ∉ tab ++ t := fun t ht hmem =>
    (List.mem_append.1 hmem).elim (by decide) ht.newline_not_mem
  have htext : "- item\n\n    ".toList ++ (a ++ ("\n\n    ".toList ++ (b ++ "\n\n".toList))) =
      "- item".toList ++ ("\n\n".toList ++ ((tab ++ a) ++ ("\n\n".toList ++ ((tab ++ b) ++
        ("\n\n".toList ++ []))))) := by
    simp [tab]
  unfold document
  rw [htext, split_line (by decide), split_line (hline a ha), split_line (hline b hb), parse, first_item]
  simp only
  rw [parse_continued ha rfl, parse_continued hb rfl]
  have hnil : split [] = [[]] := rfl
  rw [hnil, parse_blank rfl, parse_nil]
  rfl

end Nesting

end MathPage.Markdown
