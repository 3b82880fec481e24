import MathPage.Markdown.Inline.Document
import MathPage.Proofs.Markdown.Inline.Escape

/-!
# Texts in which rules find nothing

For every rule but those for backslashes and tags, what keeps it from finding anything in a text.

* `code_eq_self`, `mathematics_eq_self`, `lineBreak_eq_self`, `tag_eq_self`, `entity_eq_self`,
  `emphasis_eq_self` – the marks that these rules need do not occur;
* `referenced_eq_self`, `named_eq_self` – no name is defined;
* `link_eq_self` – no parenthesis stands directly behind a bracket;
* `address_eq_self`, `mail_eq_self` – no colon and no at sign stands behind an angle bracket, before
  something that ends an address;
* `read_front` – all rules in front of the one for tags at once;
* `read_eq_self` – a text without any marks.
-/

namespace MathPage.Markdown.Inline

variable {inner : Reader} {s : State} {t : Text}

/-! ### Marks -/

/-- A rule finds nothing in a text without the words that its pattern needs. -/
theorem Rule.ofMatches_of_needs {p : Pattern} {ws : List Text} (hp : p.Needs ws)
    (ht : ∀ w ∈ ws, ¬ w <:+: t) (f : State → Match → Verdict) :
    Rule.ofMatches p f inner s t = (t, s) :=
  Rule.ofMatches_of_noMatch (fun _ _ hsplit => Pattern.run_eq_none_of_needs hp hsplit ht) f inner s

/-- A word does not occur if one of its characters does not. -/
theorem not_infix_of_not_mem {c : Char} {w : Text} (hw : c ∈ w) (ht : c ∉ t) : ¬ w <:+: t :=
  fun h => ht (h.subset hw)

open Pattern in
theorem code_eq_self (h : Text.tick ∉ t) : code inner s t = (t, s) := by
  have hneeds : codePattern.Needs [[Text.tick]] :=
    needs_alt
      (needs_seq_right (needs_seq_right (needs_ahead (needs_char List.mem_cons_self))))
      (needs_seq_right (needs_seq_right (needs_seq_right (needs_char List.mem_cons_self))))
  refine Rule.ofMatches_of_needs hneeds (fun w hw => ?_) _
  rw [List.mem_singleton.1 hw]
  exact not_infix_of_not_mem List.mem_cons_self h

open Pattern in
theorem mathematics_eq_self (hdollar : '$' ∉ t) (hparen : Text.Apart '\\' '(' t) :
    mathematics inner s t = (t, s) := by
  have hneeds : formulaPattern.Needs [['$'], "\\(".toList] :=
    needs_alt
      (needs_seq_right (needs_seq_right (needs_ahead (needs_char List.mem_cons_self))))
      (needs_alt (needs_seq_right (needs_seq_left (needs_char List.mem_cons_self)))
        (needs_alt
          (needs_seq_right (needs_seq_right (needs_ahead (needs_text
            (List.mem_cons_of_mem _ List.mem_cons_self)))))
          (needs_seq_right (needs_seq_left (needs_text
            (List.mem_cons_of_mem _ List.mem_cons_self))))))
  refine Rule.ofMatches_of_needs hneeds (fun w hw => ?_) _
  rcases List.mem_cons.1 hw with rfl | hw
  · exact not_infix_of_not_mem List.mem_cons_self hdollar
  · rw [List.mem_singleton.1 hw]
    rintro ⟨u, v, huv⟩
    exact hparen.not_infix (by rw [← huv, List.append_assoc]; rfl)

theorem lineBreak_eq_self (h : '\n' ∉ t) : lineBreak inner s t = (t, s) := by
  have hneeds : (Pattern.str "  \n").Needs ["  \n".toList] := Pattern.needs_text List.mem_cons_self
  refine Rule.ofMatches_of_needs hneeds (fun w hw => ?_) _
  rw [List.mem_singleton.1 hw]
  exact not_infix_of_not_mem (by decide) h

open Pattern in
theorem needs_tagPattern : tagPattern.Needs [['<'], "<!--".toList, "<?".toList, "<![CDATA[".toList] :=
  needs_alt (needs_seq_left (needs_char List.mem_cons_self))
    (needs_alt (needs_seq_left (needs_text (by decide)))
      (needs_alt (needs_seq_left (needs_text (by decide)))
        (needs_seq_left (needs_text (by decide)))))

theorem tagPattern_eq_none (h : '<' ∉ t) {u v : Text} (ht : t = u ++ v) :
    tagPattern.run (.between u v) some = none := by
  have hwords : ∀ w ∈ [['<'], "<!--".toList, "<?".toList, "<![CDATA[".toList], '<' ∈ w := by decide
  exact Pattern.run_eq_none_of_needs needs_tagPattern ht fun w hw =>
    not_infix_of_not_mem (hwords w hw) h

theorem tag_eq_self (h : '<' ∉ t) : tag inner s t = (t, s) :=
  Rule.ofMatches_of_noMatch (fun _ _ ht => tagPattern_eq_none h ht) _ inner s

open Pattern in
theorem entity_eq_self (h : '&' ∉ t) : entity inner s t = (t, s) := by
  have hneeds : entityPattern.Needs [['&']] := needs_seq_left (needs_char List.mem_cons_self)
  refine Rule.ofMatches_of_needs hneeds (fun w hw => ?_) _
  rw [List.mem_singleton.1 hw]
  exact not_infix_of_not_mem List.mem_cons_self h

/-! ### Links -/

theorem eq_append_of_bracketed? {depth : ℕ} {t a rest : Text}
    (h : bracketed? depth t = some (a, rest)) : t = a ++ ']' :: rest := by
  induction t generalizing depth a with
  | nil => cases h
  | cons c t ih =>
    simp only [bracketed?] at h
    split at h
    · rename_i hc
      obtain ⟨rfl, rfl⟩ := Prod.mk.inj (Option.some.inj h)
      rw [Bool.and_eq_true, decide_eq_true_eq] at hc
      rw [hc.1]
      rfl
    · obtain ⟨⟨a', rest'⟩, hrest, heq⟩ := Option.map_eq_some_iff.1 h
      obtain ⟨rfl, rfl⟩ := Prod.mk.inj heq
      rw [ih hrest, List.cons_append]

/-- A destination begins with a parenthesis. -/
theorem destination?_eq_none (h : t.head? ≠ some '(') : destination? t = none := by
  unfold destination?
  split
  · exact absurd rfl h
  · rfl

theorem link_eq_self (h : Text.Apart ']' '(' t) (kind : Kind) : link kind inner s t = (t, s) := by
  refine Rule.ofMatches_eq_self (fun pos m hm => Or.inl ?_) inner
  obtain ⟨u, hu⟩ := Pattern.after_suffix hm
  simp only
  split
  · rfl
  · rename_i a rest hrest
    rw [destination?_eq_none fun hhead => ?_]
    obtain ⟨r, rfl⟩ : ∃ r, rest = '(' :: r := ⟨rest.tail, List.eq_cons_of_mem_head? hhead⟩
    refine h.not_infix (u := u ++ a) (v := r) ?_
    rw [← hu, eq_append_of_bracketed? hrest, List.append_assoc]

/-- No name stands for a destination. -/
theorem refer_eq_skip (kind : Kind) (m : Match) (t name rest : Text) :
    ∃ stop, refer {} kind s m t name rest = .accept (.skip stop) s := ⟨_, rfl⟩

theorem referenced_eq_self (kind : Kind) : referenced {} kind inner s t = (t, s) := by
  refine Rule.ofMatches_eq_self (fun pos m _ => ?_) inner
  simp only
  split
  · exact Or.inl rfl
  · split
    · split
      · exact Or.inr (refer_eq_skip kind m _ _ _)
      · exact Or.inl rfl
    · exact Or.inl rfl

theorem named_eq_self (kind : Kind) : named {} kind inner s t = (t, s) := by
  refine Rule.ofMatches_eq_self (fun pos m _ => ?_) inner
  split
  · exact Or.inl rfl
  · exact Or.inr (refer_eq_skip kind m _ _ _)

/-! ### Addresses -/

/-- Behind every bracket that opens, something that ends an address comes before a colon or an at
sign. -/
def NoAddress (t : Text) : Prop :=
  ∀ v, '<' :: v <:+ t → ∃ a c b, v = a ++ c :: b ∧ c ∈ "!> ".toList ∧ ':' ∉ a ∧ '@' ∉ a

theorem noAddress_of_not_mem (h : '<' ∉ t) : NoAddress t := fun _ hv =>
  absurd (hv.subset List.mem_cons_self) h

/-- Of two characters in a text one is the first. -/
theorem append_cons_ne {a a' b b' : Text} {c c' : Char} (hne : c ≠ c') (hc : c ∉ a') (hc' : c' ∉ a) :
    a ++ c :: b ≠ a' ++ c' :: b' := by
  intro h
  rcases List.append_eq_append_iff.1 h with ⟨u, rfl, hu⟩ | ⟨u, rfl, hu⟩
  · rcases u with _ | ⟨x, u⟩
    · exact hne (List.cons.inj hu).1
    · exact hc (List.mem_append_right _ ((List.cons.inj hu).1 ▸ List.mem_cons_self))
  · rcases u with _ | ⟨x, u⟩
    · exact hne (List.cons.inj hu).1.symm
    · exact hc' (List.mem_append_right _ ((List.cons.inj hu).1 ▸ List.mem_cons_self))

open Pattern in
theorem address_eq_self (h : NoAddress t) : address inner s t = (t, s) := by
  have hends : ∀ c ∈ "!> ".toList,
      (Text.isLetter c || Text.isDigit c || "+.-".toList.contains c) = false ∧ c ≠ ':' := by decide
  refine Rule.ofMatches_of_noMatch (fun u v huv => run_eq_none (fun t' hleaves => ?_) some) _ inner s
  obtain ⟨v₁, ⟨x, hv, hx⟩, v₅, ⟨v₂, ⟨l, hv₁, hl⟩, v₃, ⟨n, -, hrounds⟩, v₄, hv₃, -⟩, -⟩ := hleaves
  obtain ⟨ws, rfl, -, hws⟩ := hrounds.of_one
  obtain rfl := eq_of_beq hx
  obtain rfl : v = '<' :: v₁ := hv
  obtain ⟨a, c, b, hsplit, hc, hcolon, -⟩ := h v₁ (huv ▸ List.suffix_append u _)
  have hscheme : c ∉ l :: ws := by
    intro hmem
    rcases List.mem_cons.1 hmem with rfl | hmem
    · have hnone := (hends c hc).1
      rw [hl] at hnone
      cases hnone
    · exact Bool.false_ne_true ((hends c hc).1.symm.trans (hws c hmem))
  have hrest : v₁ = (l :: ws) ++ ':' :: ("//".toList ++ v₄) := by
    rw [hv₁, hv₃]
    rfl
  exact append_cons_ne (hends c hc).2 hscheme hcolon (hsplit.symm.trans hrest)

open Pattern in
theorem mail_eq_self (h : NoAddress t) : mail inner s t = (t, s) := by
  have hends : ∀ c ∈ "!> ".toList, "<> !".toList.contains c = true ∧ c ≠ '@' := by decide
  refine Rule.ofMatches_of_noMatch (fun u v huv => run_eq_none (fun t' hleaves => ?_) some) _ inner s
  obtain ⟨v₁, ⟨x, hv, hx⟩, v₅, ⟨v₂, ⟨n, -, hrounds⟩, v₃, ⟨y, hv₂, hy⟩, -⟩, -⟩ := hleaves
  obtain ⟨ws, rfl, -, hws⟩ := hrounds.of_one
  obtain rfl := eq_of_beq hx
  obtain rfl := eq_of_beq hy
  obtain rfl : v = '<' :: (ws ++ v₂) := hv
  obtain ⟨a, c, b, hsplit, hc, -, hat⟩ := h _ (huv ▸ List.suffix_append u _)
  have hname : c ∉ ws := by
    intro hmem
    have hfree := hws c hmem
    rw [(hends c hc).1] at hfree
    exact Bool.false_ne_true hfree
  rw [hv₂] at hsplit
  exact append_cons_ne (hends c hc).2 hname hat hsplit.symm

/-! ### Emphasis -/

theorem scanFrom_eq_self {styles : List Style} {whole t : Text} (h : ∀ st ∈ styles, st.mark ∉ t)
    (fuel : ℕ) (sc : Scan) (i : ℕ) (before : Option Char) :
    scanFrom styles whole fuel sc i before t = sc := by
  induction fuel generalizing i before t with
  | zero => rfl
  | succ fuel ih =>
    rcases t with _ | ⟨c, t⟩
    · rfl
    · have hdrop : styles.dropWhile (·.mark != c) = [] := by
        rw [List.dropWhile_eq_nil_iff]
        exact fun st hst => bne_iff_ne.2 (List.ne_of_not_mem_cons (h st hst))
      simp only [scanFrom, hdrop]
      exact ih (fun st hst => List.not_mem_of_not_mem_cons (h st hst)) _ _

theorem emphasis_eq_self {styles : List Style} (h : ∀ st ∈ styles, st.mark ∉ t) :
    emphasis styles inner s t = (t, s) := by
  have hscan : scan styles t = ([], none) := by
    unfold scan
    rw [scanFrom_eq_self h]
    simp
  unfold emphasis
  rw [hscan]
  obtain ⟨nodes, stash, _ | f⟩ := s <;> rfl

/-! ### Several rules -/

theorem read_cons_of_eq {rule : Rule} {rules : List Rule} {s' : State} {t' : Text}
    (h : rule (read rules) s t = (t', s')) : read (rule :: rules) s t = read rules s' t' := by
  rw [read, h]

/-- The rules from the one for tags on. -/
def rulesFromTag : List Rule := tag :: entity :: (Style.groups .extended).map emphasis

/-- **The rules in front of the one for tags** do no more than cover a text without their marks. -/
theorem read_front (htick : Text.tick ∉ t) (hdollar : '$' ∉ t) (hformula : Text.Apart '\\' '(' t)
    (hlink : Text.Apart ']' '(' (cover .extended s.nodes.length t))
    (hline : '\n' ∉ cover .extended s.nodes.length t)
    (haddress : NoAddress (cover .extended s.nodes.length t)) :
    read (rules .extended {}) s t =
      read rulesFromTag (s.withEscaped (covered .extended t)) (cover .extended s.nodes.length t) := by
  have hrules : rules .extended {} = code :: mathematics :: escape .extended ::
      referenced {} .link :: link .link :: link .image :: referenced {} .image ::
      named {} .link :: named {} .image :: address :: mail :: lineBreak :: rulesFromTag := rfl
  rw [hrules, read_cons_of_eq (code_eq_self htick),
    read_cons_of_eq (mathematics_eq_self hdollar hformula), read_cons_of_eq (escape_eq _ s t),
    read_cons_of_eq (referenced_eq_self .link), read_cons_of_eq (link_eq_self hlink .link),
    read_cons_of_eq (link_eq_self hlink .image), read_cons_of_eq (referenced_eq_self .image),
    read_cons_of_eq (named_eq_self .link), read_cons_of_eq (named_eq_self .image),
    read_cons_of_eq (address_eq_self haddress), read_cons_of_eq (mail_eq_self haddress),
    read_cons_of_eq (lineBreak_eq_self hline)]

/-- The characters that the rules behind the one for tags look for. -/
def lateMarks : Text := "&_*=~^".toList

/-- The rules behind the one for tags leave a text without their marks alone. -/
theorem read_behind_tag (h : ∀ c ∈ lateMarks, c ∉ t) (s : State) :
    read (entity :: (Style.groups .extended).map emphasis) s t = (t, s) := by
  have hstyles : ∀ styles ∈ Style.groups .extended, ∀ st ∈ styles, st.mark ∈ lateMarks := by decide
  have hgroups : ∀ groups : List (List Style), (∀ g ∈ groups, g ∈ Style.groups .extended) →
      ∀ s : State, read (groups.map emphasis) s t = (t, s) := fun groups => by
    induction groups with
    | nil => exact fun _ _ => rfl
    | cons g groups ih =>
      intro hmem s
      have hg : emphasis g (read (groups.map emphasis)) s t = (t, s) := emphasis_eq_self fun st hst =>
        h _ (hstyles g (hmem g List.mem_cons_self) st hst)
      rw [List.map_cons, read_cons_of_eq hg]
      exact ih (fun x hx => hmem x (List.mem_cons_of_mem _ hx)) s
  rw [read_cons_of_eq (entity_eq_self (h '&' (by decide)))]
  exact hgroups _ (fun _ hg => hg) s

/-- The characters that some rule looks for. -/
def marks : Text := Text.tick :: "$\\[]<\n".toList ++ lateMarks

/-- **A text without marks is left alone.** -/
theorem read_eq_self (h : ∀ c ∈ marks, c ∉ t) : read (rules .extended {}) s t = (t, s) := by
  have hbackslash : '\\' ∉ t := h _ (by decide)
  have hangle : '<' ∉ t := h _ (by decide)
  have hcover : cover .extended s.nodes.length t = t := cover_eq_self hbackslash _
  have hself : s.withEscaped [] = s := by
    simp [State.withEscaped]
  rw [read_front (h _ (by decide)) (h _ (by decide)) (Text.apart_of_not_mem hbackslash)
    (hcover.symm ▸ Text.apart_of_not_mem (h _ (by decide))) (hcover.symm ▸ h _ (by decide))
    (hcover.symm ▸ noAddress_of_not_mem hangle), hcover, covered_eq_nil hbackslash, hself,
    rulesFromTag, read_cons_of_eq (tag_eq_self hangle)]
  exact read_behind_tag (fun c hc => h c (List.mem_append_right _ hc)) s

end MathPage.Markdown.Inline
