import MathPage.Proofs.Equation.Repeat
import MathPage.Proofs.Markdown.Nesting.Reading

/-!
# Equations in quotes and list items

* `equations` – what the renderer is asked for when a text is converted;
* `Nesting.equations_standing` – an equation of the document asks for the attributes of its marker;
* `Nesting.equations_quoted`, `Nesting.equations_listed` – one in a quote or a list item asks for
  those of the marker that the inline rules leave;
* `Nesting.equations_nested` – when the two agree.
-/

namespace MathPage.Markdown

variable {ω : Type} {h : Host ω}

/-- The equations that the renderer is asked for when a text is converted. -/
def equations (h : Host ω) (t : Text) (w : ω) : List Equation :=
  (render h.traced t (w, [])).2.2.map Call.equation

/-- A text is converted after a message. -/
theorem equations_eq (hq : h.NeverRefuses) (t : Text) (w : ω) :
    ∃ v : ω, equations h t w = (convert .extended h.traced t
      { outside := (v, ([] : List Call)) }).2.outside.2.map Call.equation := by
  have hlog : ∀ m, h.traced.log .debug m (w, []) = (.ok (), (h.log .debug m w).2, []) := fun m => by
    rw [← hq .debug m w]
    rfl
  have hrender : ∃ v, render h.traced t (w, []) =
      ((convert .extended h.traced t { outside := (v, []) }).1,
        (convert .extended h.traced t { outside := (v, []) }).2.outside) :=
    ⟨_, Action.bind_of_ok (hlog _)⟩
  obtain ⟨v, hv⟩ := hrender
  exact ⟨v, by rw [equations, hv]⟩

/-- A text that makes a tree asks for what the pass over the tree asks for. -/
theorem equations_of_tree (hq : h.NeverRefuses) {t : Text} (hblank : Text.allBlank t = false)
    {root : Element} {defs : Definitions} {s : Stash}
    (htree : tree .extended t {} {} = .ok (root, defs, s)) (w : ω) :
    ∃ v, equations h t w = Pass.asked (Pass.element h.traced root ⟨s, v, []⟩).state := by
  obtain ⟨v, heq⟩ := equations_eq hq t w
  refine ⟨v, ?_⟩
  rw [heq, ← Pass.asked_run]
  unfold convert
  simp only [hblank, Bool.false_eq_true, if_false, htree]
  split
  · rfl
  · rfl

/-- A text without a tree asks for nothing. -/
theorem equations_of_fault (hq : h.NeverRefuses) {t : Text} (hblank : Text.allBlank t = false)
    {f : MarkupFault} (htree : tree .extended t {} {} = .error f) (w : ω) :
    equations h t w = [] := by
  obtain ⟨v, heq⟩ := equations_eq hq t w
  rw [heq]
  unfold convert
  simp only [hblank, Bool.false_eq_true, if_false, htree]
  rfl

namespace Nesting

open Marker (IsComment)

/-! ### The trees of the documents -/

/-- The tree of a text whose blocks and tasks have been read. -/
theorem tree_of_protect {t u : Text} {s s' s'' : Stash} {defs defs' : Definitions}
    {root root' : Element} (hprotect : protect .extended (Source.normalize t) s = .ok (u, s'))
    (hblocks : Block.document .extended u defs = (root, defs'))
    (htasks : Tasks.mark root s' = (root', s'')) :
    tree .extended t defs s = (Inline.document .extended defs' u.length root' s'').map
      fun (root, s) => (root, defs', s) := by
  unfold tree
  simp only [hprotect, bind, Except.bind, hblocks, if_true, htasks]
  cases Inline.document .extended defs' u.length root' s'' <;> rfl

/-- The tree of a text whose raw HTML was all that there is. -/
theorem tree_of_placeholders (ps : List (Bool × ℕ)) {t : Text} {s : Stash} (hps : ps.length ≤ 16)
    (hprotect : protect .extended (Source.normalize t) {} = .ok (placeholders ps, s))
    (htasks : Tasks.mark (.node "div" (ps.map fun p => Stash.image p.2)) s =
      (.node "div" (ps.map fun p => Stash.image p.2), s)) :
    tree .extended t {} {} = .ok (.node "div" (ps.map fun p => Stash.image p.2), {}, s) := by
  have hdocument := document_images (ps.map Prod.snd) (by rw [List.length_map]; exact hps)
    (placeholders ps).length s
  have himages : (ps.map Prod.snd).map Stash.image = ps.map fun p => Stash.image p.2 :=
    List.map_map
  rw [himages] at hdocument
  rw [tree_of_protect hprotect (document_placeholders ps) htasks, hdocument]
  rfl

theorem tree_standing {a b : Text} (ha : IsComment a) (hb : IsComment b) :
    tree .extended (standing a b) {} {} = .ok (page (Stash.image 0) (Stash.image 1), {},
      ⟨[.html (a ++ ['\n']), .html (b ++ ['\n'])]⟩) :=
  tree_of_placeholders [(false, 0), (false, 1)] (by decide) (protect_standing ha hb {}) rfl

theorem tree_quoted {a b : Text} (ha : IsComment a) (hb : IsComment b) :
    ∃ size, tree .extended (quoted a b) {} {} =
      (Inline.document .extended {} size (quote (Element.leaf "p" a) (Element.leaf "p" b)) {}).map
        fun (root, s) => (root, {}, s) :=
  ⟨_, tree_of_protect (protect_quoted ha hb {}) (document_quoted ha hb) rfl⟩

theorem tree_listed {a b : Text} (ha : IsComment a) (hb : IsComment b) :
    ∃ size, tree .extended (listed a b) {} {} =
      (Inline.document .extended {} size (list (Element.leaf "p" a) (Element.leaf "p" b)) {}).map
        fun (root, s) => (root, {}, s) :=
  ⟨_, tree_of_protect (protect_listed ha hb {}) (document_listed ha hb) rfl⟩

/-! ### What the documents ask for -/

/-- The equation that a paragraph with a text asks for when the text has been read. -/
def equationIn? (t : Text) : Option Equation :=
  (markerIn? t).bind fun marker => (Marker.attributes marker).toOption

/-- **An equation of the document** is asked for as its marker is written. -/
theorem equations_standing (hq : h.NeverRefuses) {e e' : Equation} (he : Marker.Writable e)
    (ha : Marker.attributes (Marker.start e) = .ok e') (w : ω) :
    equations h (standing (Marker.start e) Marker.stop) w = [e'] := by
  have hblank : Text.allBlank (standing (Marker.start e) Marker.stop) = false := rfl
  obtain ⟨v, heq⟩ := equations_of_tree hq hblank
    (tree_standing he.isComment_start Marker.isComment_stop) w
  have hpair : Pass.IsPair
      ⟨[.html (Marker.start e ++ ['\n']), .html (Marker.stop ++ ['\n'])]⟩
      (some (Marker.start e ++ ['\n'])) (Stash.image 0) (Stash.image 1) := by
    refine ⟨?_, fun _ hx => absurd hx List.not_mem_nil, ⟨Marker.stop ++ ['\n'], ?_, by decide⟩, rfl⟩
    · rw [Pass.startMarker?, Stash.value?_image]
      exact Option.filter_eq_some_iff.2 ⟨rfl, Marker.isStart_start he _⟩
    · rw [Stash.value?_image]
      rfl
  rw [heq, Pass.asked_element_pair hq [] rfl (fun _ hx => absurd hx List.not_mem_nil)
    hpair, Option.bind_some, Marker.attributes_append ha]
  rfl

/-- **An equation of a quote** is asked for as the inline rules leave its marker. -/
theorem equations_quoted (hq : h.NeverRefuses) {a : Text} (ha : IsComment a) (w : ω) :
    equations h (quoted a Marker.stop) w = (equationIn? a).toList := by
  have hblank : Text.allBlank (quoted a Marker.stop) = false := rfl
  obtain ⟨size, htree⟩ := tree_quoted ha Marker.isComment_stop
  rcases document_quote a size with ⟨p, q, s, hdoc, hpair⟩ | ⟨f, hdoc, hnone⟩
  · rw [hdoc] at htree
    obtain ⟨v, heq⟩ := equations_of_tree hq hblank htree w
    rw [heq, Pass.element_of_child h.traced (c := .node "blockquote" [p, q]) rfl rfl,
      Pass.asked_element_pair hq [] rfl (fun _ hx => absurd hx List.not_mem_nil) hpair]
    rfl
  · rw [hdoc] at htree
    rw [equations_of_fault hq hblank htree, equationIn?, hnone]
    rfl

/-- **An equation of a list item** is asked for as the inline rules leave its marker. -/
theorem equations_listed (hq : h.NeverRefuses) {a : Text} (ha : IsComment a) (w : ω) :
    equations h (listed a Marker.stop) w = (equationIn? a).toList := by
  have hblank : Text.allBlank (listed a Marker.stop) = false := rfl
  obtain ⟨size, htree⟩ := tree_listed ha Marker.isComment_stop
  rcases document_list a size with ⟨p, q, s, hdoc, hpair⟩ | ⟨f, hdoc, hnone⟩
  · rw [hdoc] at htree
    obtain ⟨v, heq⟩ := equations_of_tree hq hblank htree w
    have hbefore : ∀ x ∈ [Element.leaf "p" "item".toList],
        Pass.startMarker? s x = none ∧ x.children = [] := fun x hx => by
      rw [List.mem_singleton.1 hx]
      exact ⟨rfl, rfl⟩
    rw [heq, Pass.element_of_child h.traced rfl rfl, Pass.element_of_child h.traced rfl rfl,
      Pass.asked_element_pair hq _ rfl hbefore hpair]
    rfl
  · rw [hdoc] at htree
    rw [equations_of_fault hq hblank htree, equationIn?, hnone]
    rfl

/-! ### When they ask for the same -/

/-- A value without marks of code and formulas, and with no parenthesis where a formula or the
address of a link could begin. -/
structure IsCalm (t : Text) : Prop where
  tick : Text.tick ∉ t
  dollar : '$' ∉ t
  formula : Text.Apart '\\' '(' t
  link : Text.Apart ']' '(' t

instance (t : Text) : Decidable (IsCalm t) :=
  decidable_of_iff (Text.tick ∉ t ∧ '$' ∉ t ∧ Text.Apart '\\' '(' t ∧ Text.Apart ']' '(' t)
    ⟨fun ⟨h, h', hf, hl⟩ => ⟨h, h', hf, hl⟩, fun ⟨h, h', hf, hl⟩ => ⟨h, h', hf, hl⟩⟩

/-- A start marker with such values is left as it is. -/
theorem undisturbed_start {e : Equation} (he : Marker.Writable e) (hlabel : IsCalm e.label)
    (halt : IsCalm e.alt) (hraw : IsCalm e.raw) :
    Inline.Undisturbed "equation".toList (Marker.fields e) where
  toIsTag := he.isTag
  last := by
    rw [Marker.getLast?_fields]
    decide
  free := by
    have hvalue : ∀ {t : Text}, Marker.IsValue t → IsCalm t →
        ∀ c ∈ Stash.opening :: Text.tick :: "$\n".toList, c ∉ t := fun ht hcalm c hc => by
      have hkinds : ∀ c ∈ Stash.opening :: Text.tick :: "$\n".toList,
          Text.isHidden c = true ∨ c = Text.tick ∨ c = '$' := by decide
      rcases hkinds c hc with hhidden | rfl | rfl
      · exact ht.not_mem_of_isHidden hhidden
      · exact hcalm.tick
      · exact hcalm.dollar
    intro c hc hmem
    have hframe : ∀ c ∈ Stash.opening :: Text.tick :: "$\n".toList, c ∉ Marker.frame := by decide
    rcases Marker.mem_fields hmem with hmem | hmem | hmem | hmem
    · exact hframe c hc hmem
    · exact hvalue he.label hlabel c hc hmem
    · exact hvalue he.alt halt c hc hmem
    · exact hvalue he.raw hraw c hc hmem
  formula := Marker.apart_fields (by decide) (by decide) hlabel.formula halt.formula hraw.formula
  link := Marker.apart_fields (by decide) (by decide) hlabel.link halt.link hraw.link

theorem equationIn?_start {e : Equation} (he : Marker.Writable e) (hlabel : IsCalm e.label)
    (halt : IsCalm e.alt) (hraw : IsCalm e.raw) :
    equationIn? (Marker.start e) = (Marker.attributes (Marker.start e)).toOption := by
  obtain ⟨ns, hopen⟩ := Inline.openText_comment (undisturbed_start he hlabel halt hraw)
    { stash := {} }
  rw [← Marker.start_eq_comment] at hopen
  have hstands : Inline.standsFor? (Marker.start e) = some (Marker.start e) := by
    rw [Inline.standsFor?, Inline.opened, hopen]
    rfl
  have hstart := Marker.isStart_start he []
  rw [List.append_nil] at hstart
  rw [equationIn?, markerIn?, hstands, Option.filter_some, if_pos hstart, Option.bind_some]

/-- **Nesting changes an equation only if the inline rules do.** -/
theorem equations_nested (h : Host ω) (hq : h.NeverRefuses) (e : Equation) (he : Marker.Writable e)
    (w : ω) :
    ∃ alt raw,
      equations h (standing (Marker.start e) Marker.stop) w = [⟨e.label, alt, raw⟩] ∧
      equations h (listed (Marker.start e) Marker.stop) w =
        equations h (quoted (Marker.start e) Marker.stop) w ∧
      (equations h (quoted (Marker.start e) Marker.stop) w =
          equations h (standing (Marker.start e) Marker.stop) w ↔
        equationIn? (Marker.start e) = some ⟨e.label, alt, raw⟩) ∧
      ((∀ t ∈ [e.label, e.alt, e.raw], IsCalm t) →
        equationIn? (Marker.start e) = some ⟨e.label, alt, raw⟩) := by
  obtain ⟨alt, raw, ha⟩ := Marker.exists_attributes_start he
  have hstanding := equations_standing hq he ha w
  have hquoted := equations_quoted hq he.isComment_start w
  have hlisted := equations_listed hq he.isComment_start w
  refine ⟨alt, raw, hstanding, by rw [hlisted, hquoted], ?_, fun hcalm => ?_⟩
  · rw [hquoted, hstanding]
    cases equationIn? (Marker.start e) with
    | none => simp
    | some e' => simp
  · rw [equationIn?_start he (hcalm _ (by simp)) (hcalm _ (by simp)) (hcalm _ (by simp)), ha]
    rfl

/-- A square, in a quote and at the top level. -/
theorem equations_nested_square :
    Pass.quoter.NeverRefuses ∧ Marker.Writable ⟨['e'], ['a'], "x^2".toList⟩ ∧
      equations Pass.quoter
          (quoted (Marker.start ⟨['e'], ['a'], "x^2".toList⟩) Marker.stop) () =
        equations Pass.quoter
          (standing (Marker.start ⟨['e'], ['a'], "x^2".toList⟩) Marker.stop) () := by
  have hq : Pass.quoter.NeverRefuses := fun _ _ _ => rfl
  have he : Marker.Writable ⟨['e'], ['a'], "x^2".toList⟩ := by decide
  obtain ⟨alt, raw, -, -, hiff, hcalm⟩ := equations_nested Pass.quoter hq _ he ()
  exact ⟨hq, he, hiff.2 (hcalm (by decide))⟩

/-- An expression between dollar signs, which the inline rules take for a formula: in a quote another
equation is asked for. -/
theorem equations_nested_dollars :
    Pass.quoter.NeverRefuses ∧ Marker.Writable ⟨['e'], ['a'], "$x$".toList⟩ ∧
      equations Pass.quoter
          (quoted (Marker.start ⟨['e'], ['a'], "$x$".toList⟩) Marker.stop) () =
        [⟨['e'], ['a'], "<span class=".toList⟩] ∧
      equations Pass.quoter
          (standing (Marker.start ⟨['e'], ['a'], "$x$".toList⟩) Marker.stop) () =
        [⟨['e'], ['a'], "$x$".toList⟩] := by
  have hq : Pass.quoter.NeverRefuses := fun _ _ _ => rfl
  have he : Marker.Writable ⟨['e'], ['a'], "$x$".toList⟩ := by decide
  have hin : equationIn? (Marker.start ⟨['e'], ['a'], "$x$".toList⟩) =
      some ⟨['e'], ['a'], "<span class=".toList⟩ := by decide +kernel
  refine ⟨hq, he, ?_, equations_standing hq he rfl ()⟩
  rw [equations_quoted hq he.isComment_start, hin]
  rfl

end Nesting

end MathPage.Markdown
