import MathPage.Proofs.Document.Reader
import MathPage.Proofs.Equation.Image.Request

/-!
# The printed element of an equation

* `quotes_quoted` – an attribute value stands between two marks of one kind and is read back, with
  quotation marks and apostrophes, codes and angle brackets of its own;
* `figure` – the element that is meant, and `nodes?_element` – the printed text is read as it;
* `element_injective` – two equations are never printed alike.

What a call gives is read as the element with the values that were handed in, however its source was
chosen (`render_intact`).
-/

namespace MathPage.Image

/-! ### Values -/

/-- A quotation mark as a code, any other character as it is. -/
def escapeQuote (c : Char) : Text := if c = Text.quote then "&quot;".toList else [c]

theorem quote_not_mem_escapeQuote (c : Char) : Text.quote ∉ escapeQuote c := by
  unfold escapeQuote
  split
  · decide
  · rename_i hc
    exact fun hmem => hc (List.mem_singleton.1 hmem).symm

theorem writes_escapeQuote {c : Char} (hc : c ≠ '&') :
    Text.Writes Reader.codes c (escapeQuote c) := by
  unfold escapeQuote
  split
  · rename_i hquote
    rw [hquote]
    exact .coded (k := ⟨"&quot;".toList, Text.quote⟩) (by decide)
  · exact .plain hc

/-- An escaped character is still written as one if something goes over it that leaves codes as they
are and writes the other characters. -/
theorem writes_escapeChar {f : Char → Text}
    (hcodes : ∀ k ∈ Reader.codes, k.written.flatMap f = k.written)
    (hchar : ∀ c, c ≠ '&' → Text.Writes Reader.codes c (f c)) (c : Char) :
    Text.Writes Reader.codes c ((escapeChar c).flatMap f) := by
  have hcoded : ∀ k ∈ Reader.codes, Text.Writes Reader.codes k.meaning (k.written.flatMap f) :=
    fun k hk => by
      rw [hcodes k hk]
      exact .coded hk
  unfold escapeChar
  split
  · exact hcoded ⟨"&amp;".toList, '&'⟩ (by decide)
  · exact hcoded ⟨"&lt;".toList, '<'⟩ (by decide)
  · exact hcoded ⟨"&gt;".toList, '>'⟩ (by decide)
  · rename_i hampersand _ _
    rw [List.flatMap_singleton]
    exact hchar _ hampersand

theorem decode_escape_flatMap {f : Char → Text}
    (hcodes : ∀ k ∈ Reader.codes, k.written.flatMap f = k.written)
    (hchar : ∀ c, c ≠ '&' → Text.Writes Reader.codes c (f c)) (t : Text) :
    Text.decode Reader.codes ((escape t).flatMap f) = t := by
  rw [escape, List.flatMap_assoc]
  exact Text.decode_flatMap Reader.isTable_codes fun c _ => writes_escapeChar hcodes hchar c

theorem decode_escape (t : Text) : Text.decode Reader.codes (escape t) = t := by
  have hplain := decode_escape_flatMap (f := fun c => [c]) (by decide) (fun _ hc => .plain hc) t
  rwa [List.flatMap_singleton'] at hplain

theorem decode_escape_escapeQuote (t : Text) :
    Text.decode Reader.codes ((escape t).flatMap escapeQuote) = t :=
  decode_escape_flatMap (by decide) (fun _ hc => writes_escapeQuote hc) t

/-- **An attribute value is read back**, whatever characters it has. -/
theorem quotes_quoted (t : Text) : Reader.Quotes (quoted t) t := by
  by_cases hquote : Text.quote ∈ escape t
  · by_cases hapostrophe : Text.apostrophe ∈ escape t
    · refine ⟨Text.quote, (escape t).flatMap escapeQuote, ?_, Or.inl rfl, fun hmem => ?_,
        decode_escape_escapeQuote t⟩
      · rw [quoted, if_pos (List.contains_iff_mem.2 hquote),
          if_pos (List.contains_iff_mem.2 hapostrophe)]
        rfl
      · obtain ⟨c, -, hc⟩ := List.mem_flatMap.1 hmem
        exact quote_not_mem_escapeQuote c hc
    · refine ⟨Text.apostrophe, escape t, ?_, Or.inr rfl, hapostrophe, decode_escape t⟩
      rw [quoted, if_pos (List.contains_iff_mem.2 hquote),
        if_neg (mt List.contains_iff_mem.1 hapostrophe)]
      rfl
  · refine ⟨Text.quote, escape t, ?_, Or.inl rfl, hquote, decode_escape t⟩
    rw [quoted, if_neg (mt List.contains_iff_mem.1 hquote)]
    rfl

/-! ### The element -/

/-- The attributes of the outer element. -/
def outer (e : Equation) : List (Text × Text) :=
  [("align".toList, "center".toList), ("class".toList, "equation".toList),
    ("data-equation".toList, "eq:".toList ++ e.label), ("data-raw-text".toList, e.raw)]

/-- The attributes of the image. -/
def inner (e : Equation) (src : Text) : List (Text × Text) :=
  [("alt".toList, e.alt), ("src".toList, src)]

/-- The element of an equation: one image and one line break inside. -/
def figure (e : Equation) (src : Text) : Reader.Node :=
  .element "div".toList (outer e)
    [.text "\n    ".toList, .element "img".toList (inner e src) [], .text "\n    ".toList,
      .element "br".toList [] [], .text "\n".toList]

/-- The element tag by tag. -/
theorem element_eq (e : Equation) (src : Text) : element e src =
    '<' :: ("div".toList ++ (Reader.fields quoted (outer e) ++ ['>'])) ++ ("\n    ".toList ++
      ('<' :: ("img".toList ++ (Reader.fields quoted (inner e src) ++ ['/', '>'])) ++
        ("\n    ".toList ++ ('<' :: ("br".toList ++ (Reader.fields quoted [] ++ ['/', '>'])) ++
          ("\n".toList ++ '<' :: '/' :: ("div".toList ++ ['>'])))))) := by
  have hbegin : "<div".toList = '<' :: "div".toList := rfl
  have hmiddle : ">\n    <img".toList = ['>'] ++ ("\n    ".toList ++ '<' :: "img".toList) := rfl
  have hend : "/>\n    <br/>\n</div>".toList = ['/', '>'] ++ ("\n    ".toList ++
      ('<' :: ("br".toList ++ ['/', '>']) ++ ("\n".toList ++ '<' :: '/' :: ("div".toList ++ ['>'])))) :=
    rfl
  unfold element field outer inner Reader.fields
  -- nothing depends on how the values are written
  generalize quoted = q
  rewrite [hbegin, hmiddle, hend]
  simp only [List.flatMap_cons, List.flatMap_nil, List.append_assoc, List.cons_append,
    List.nil_append]

/-- The tokens of the element. -/
theorem tokens?_element (e : Equation) (src : Text) : Reader.tokens? (element e src) =
    some [.opening ⟨"div".toList, outer e⟩, .text "\n    ".toList,
      .opening ⟨"img".toList, inner e src⟩, .text "\n    ".toList, .opening ⟨"br".toList, []⟩,
      .text "\n".toList, .closing "div".toList] := by
  have houter : ∀ a ∈ outer e, Reader.IsName a.1 := by simp [outer, Reader.IsName]
  have hinner : ∀ a ∈ inner e src, Reader.IsName a.1 := by simp [inner, Reader.IsName]
  rw [Reader.tokens?, element_eq, Reader.run_append,
    Reader.run_tag quotes_quoted (by decide) houter (Or.inl rfl), Option.bind_some,
    Reader.run_append, Reader.run_text (by decide), Option.bind_some, Reader.run_append,
    Reader.run_tag quotes_quoted (by decide) hinner (Or.inr rfl), Option.bind_some,
    Reader.run_append, Reader.run_text (by decide), Option.bind_some, Reader.run_append,
    Reader.run_tag quotes_quoted (by decide) (by simp) (Or.inr rfl), Option.bind_some,
    Reader.run_append, Reader.run_text (by decide), Option.bind_some,
    Reader.run_closingTag (by decide)]
  rfl

/-- **The printed element is read as the element that is meant.** -/
theorem nodes?_element (e : Equation) (src : Text) :
    Reader.nodes? (element e src) = some [figure e src] := by
  rw [Reader.nodes?, tokens?_element, Option.bind_some]
  rfl

/-- Different equations, or images from different sources, are printed as different elements. -/
theorem element_injective {e e' : Equation} {src src' : Text}
    (h : element e src = element e' src') : e = e' ∧ src = src' := by
  have hfigure : some [figure e src] = some [figure e' src'] := by
    rw [← nodes?_element, ← nodes?_element, h]
  simp only [figure, outer, inner, Option.some.injEq, List.cons.injEq, Reader.Node.element.injEq,
    Prod.mk.injEq, List.append_cancel_left_eq, true_and, and_true] at hfigure
  obtain ⟨⟨hlabel, hraw⟩, halt, hsrc⟩ := hfigure
  refine ⟨?_, hsrc⟩
  cases e
  cases e'
  rw [Equation.mk.injEq]
  exact ⟨hlabel, halt, hraw⟩

/-! ### Calls -/

variable {ω : Type}

/-- **What a call gives carries its data intact.** It is read as the element with the label, the
alternative text and the expression that were handed in and with the source that was chosen, and no
other equation and no other source give the same text, wherever they come from. A call gives
something unless the request ends the program or a message is refused. -/
theorem render_intact (n : Net ω) (s : Source) (e : Equation) (w : ω) :
    (∀ html, (render n s e w).1 = .ok html → ∃ src, n.source s e w = .ok src ∧
      Reader.nodes? html = some [figure e src] ∧
      ∀ (ω' : Type) (n' : Net ω') s' e' w', (render n' s' e' w').1 = .ok html →
        e' = e ∧ n'.source s' e' w' = .ok src) ∧
    (n.logger.NeverRefuses →
      (s.inline = true → ∀ f, (n.fetch (url s e.label e.raw) s.timeout w).1 ≠ .broken f) →
      ∃ html, (render n s e w).1 = .ok html) := by
  refine ⟨fun html hhtml => ?_, fun hq hanswer => ?_⟩
  · obtain ⟨src, hsource, rfl⟩ := eq_element_of_render hhtml
    refine ⟨src, hsource, nodes?_element e src, fun ω' n' s' e' w' hhtml' => ?_⟩
    obtain ⟨src', hsource', hsame⟩ := eq_element_of_render hhtml'
    obtain ⟨rfl, rfl⟩ := element_injective hsame
    exact ⟨rfl, hsource'⟩
  · obtain ⟨src, hsource⟩ := exists_source_eq_ok hanswer
    exact ⟨element e src, by rw [render_eq_map hq, hsource]; rfl⟩

/-- Values with marks, codes and angle brackets of their own. -/
theorem render_intact_marks :
    let e : Equation := ⟨"a'b".toList, "it's \"&quot;\" <b>".toList, "x < \"y\"".toList⟩
    let s : Source := { base := some "img".toList, inline := true }
    ∃ html, (render .offline s e ()).1 = .ok html ∧
      Reader.nodes? html = some [figure e "img/equation_a'b.svg".toList] := by
  intro e s
  have hq : Net.offline.logger.NeverRefuses := fun _ _ _ => rfl
  obtain ⟨hread, hgives⟩ := render_intact .offline s e ()
  obtain ⟨html, hhtml⟩ := hgives hq fun _ f hf => by cases hf
  obtain ⟨src, hsource, hnodes, -⟩ := hread html hhtml
  obtain rfl : "img/equation_a'b.svg".toList = src := Except.ok.inj hsource
  exact ⟨html, hhtml, hnodes⟩

end MathPage.Image
