import MathPage.Proofs.Equation.Written
import MathPage.Proofs.Markdown.Inline.Unmarked

/-!
# Comments in a line

The rule for tags moves a comment into the stash as it was written, if no rule in front of it finds
anything in the comment but protected characters.

* `Undisturbed` – such comments;
* `tag_comment` – what the rule for tags makes of a comment;
* `expand_comment` – the whole reading: a placeholder is left, and the stash holds the comment;
* `expand_eq_self`, `expand_placeholder` – a text without marks, and a placeholder, stay.
-/

namespace MathPage.Markdown.Inline

open Marker (comment inside IsTag comment_eq_inside)

/-- A comment around a tag in which no rule in front of the one for tags finds anything but protected
characters. -/
structure Undisturbed (name behind : Text) : Prop extends IsTag name behind where
  last : behind.getLast? ≠ some '\\'
  free : ∀ c ∈ Stash.opening :: Text.tick :: "$\n".toList, c ∉ behind
  formula : Text.Apart '\\' '(' behind
  link : Text.Apart ']' '(' behind

variable {name behind : Text}

/-! ### The text of a comment -/

theorem not_mem_comment {c : Char} (htext : c ∉ "<!-> ".toList) (hname : c ∉ name)
    (hbehind : c ∉ behind) : c ∉ comment name behind := by
  have hleft : ∀ x ∈ "<!-- <".toList, x ∈ "<!-> ".toList := by decide
  have hright : ∀ x ∈ "> -->".toList, x ∈ "<!-> ".toList := by decide
  unfold comment
  simp only [List.mem_append, not_or]
  exact ⟨fun h => htext (hleft c h), hname, hbehind, fun h => htext (hright c h)⟩

theorem apart_comment {a b : Char} (htext : a ∉ "<!-> ".toList) (hb : b ≠ '>') (hname : a ∉ name)
    (hbehind : Text.Apart a b behind) : Text.Apart a b (comment name behind) := by
  have hleft : ∀ x ∈ "<!-- <".toList, x ∈ "<!-> ".toList := by decide
  have hright : ∀ x ∈ "> -->".toList, x ∈ "<!-> ".toList := by decide
  have hopen : a ∉ "<!-- <".toList := fun h => htext (hleft a h)
  have hclose : a ∉ "> -->".toList := fun h => htext (hright a h)
  refine (Text.apart_of_not_mem hopen).append ((Text.apart_of_not_mem hname).append
    (hbehind.append (Text.apart_of_not_mem hclose) (Or.inr ?_)) (Or.inl ?_)) (Or.inl ?_)
  · exact fun h => hb (Option.some.inj h).symm
  · exact fun h => hname (List.mem_of_getLast? h)
  · exact fun h => hopen (List.mem_of_getLast? h)

namespace Undisturbed

theorem cover_comment (h : Undisturbed name behind) (d : Dialect) (k : ℕ) :
    cover d k (comment name behind) = comment name (cover d k behind) := by
  have hopen : '\\' ∉ "<!-- <".toList := by decide
  have hclose : '\\' ∉ "> -->".toList := by decide
  unfold comment
  rw [cover_append_of_not_mem hopen, cover_append_of_not_mem (h.not_mem_name (by decide))]
  rcases List.eq_nil_or_concat behind with rfl | ⟨u, q, rfl⟩
  · rw [List.nil_append, cover_eq_self hclose]
    rfl
  · have hq : q ≠ '\\' := by
      have := h.last
      simpa using this
    rw [List.concat_eq_append, List.append_assoc, List.singleton_append, cover_append hq hclose]

end Undisturbed

/-! ### The rule for tags -/

/-- No address in a comment: something else comes first behind both brackets. -/
theorem noAddress_comment (h : IsTag name behind) : NoAddress (comment name behind) := by
  have hat : '@' ∉ name := h.not_mem_name (by decide)
  have hcolon : ':' ∉ name := h.not_mem_name (by decide)
  have hcut : comment name behind =
      '<' :: ("!-- ".toList ++ '<' :: (name ++ (behind ++ "> -->".toList))) := rfl
  intro v hv
  rw [hcut] at hv
  rcases List.suffix_cons_iff.1 hv with heq | hv
  · exact ⟨[], '!', _, (List.cons.inj heq).2, by decide, List.not_mem_nil, List.not_mem_nil⟩
  · rcases List.suffix_cons_iff.1 (Text.suffix_of_suffix_append hv (by decide)) with heq | hv
    · rcases behind with _ | ⟨c, behind⟩
      · exact ⟨name, '>', _, (List.cons.inj heq).2, by decide, hcolon, hat⟩
      · refine ⟨name, c, _, (List.cons.inj heq).2, ?_, hcolon, hat⟩
        rw [h.head c rfl]
        decide
    · have hmem := hv.subset List.mem_cons_self
      rw [List.mem_append, List.mem_append] at hmem
      rcases hmem with hmem | hmem | hmem
      · exact absurd hmem (h.not_mem_name (by decide))
      · exact absurd hmem h.angle
      · exact absurd hmem (by decide)

open Pattern in
/-- What ends the repetition in the pattern of a comment. -/
def commentMark : Pattern := .alt (str "<!--") (str "-->")

open Pattern in
/-- The pattern of a comment. -/
def commentPattern : Pattern :=
  .seq (str "<!--") (.seq (star (unlessAt commentMark)) (str "-->"))

open Pattern in
/-- A comment is matched up to its end. -/
theorem run_commentPattern {u : Text} (hangle : Text.Apart '<' '!' (u ++ [' ']))
    (hhyphens : Text.Apart '-' '-' (u ++ [' '])) :
    commentPattern.run (.between [] ("<!--".toList ++ (u ++ [' '] ++ "-->".toList))) some =
      some (.between ("<!--".toList ++ (u ++ [' '] ++ "-->".toList)) []) := by
  have hfail : ∀ u₁ x u₂, u ++ [' '] = u₁ ++ x :: u₂ →
      commentMark.run (.between ("<!--".toList ++ u₁) (x :: u₂ ++ "-->".toList)) some = none := by
    intro u₁ x u₂ hsplit
    refine run_eq_none (fun t' hleaves => ?_) some
    have hlast : ∀ {c : Char}, c ≠ ' ' → (u ++ [' ']).getLast? ≠ some c := fun hc h => by
      rw [List.getLast?_concat] at h
      exact hc (Option.some.inj h).symm
    rcases hleaves with h | h
    · exact hangle.ne_cons_cons (hlast (by decide)) hsplit h
    · exact hhyphens.ne_cons_cons (hlast (by decide)) hsplit h
  have hmark : (commentMark.run (.between ("<!--".toList ++ (u ++ [' '])) "-->".toList) some).isSome :=
    rfl
  have hend := run_text "-->".toList (a := "<!--".toList ++ (u ++ [' '])) (v := []) some
  rw [List.append_nil] at hend
  rw [commentPattern, run_seq]
  refine (run_text "<!--".toList _).trans ?_
  rw [← List.append_assoc]
  exact run_star_unlessAt hfail hmark hend

open Pattern in
/-- A comment is no start tag and no end tag. -/
theorem run_tagPattern {t : Text} {d : Cursor}
    (h : commentPattern.run (.between [] ('<' :: '!' :: t)) some = some d) :
    tagPattern.run (.between [] ('<' :: '!' :: t)) some = some d := by
  obtain ⟨r, r', hpattern⟩ : ∃ r r', tagPattern =
      .alt (.seq (char '<') (.seq (opt (char '/')) (.seq (.one Text.isLetter) r)))
        (.alt commentPattern r') := ⟨_, _, rfl⟩
  rw [hpattern, run_alt_of_eq_none _ (run_eq_none (fun t' hleaves => ?_) some)]
  · exact run_alt_of_eq_some _ h
  · obtain ⟨v, ⟨x, hv, -⟩, v', ⟨n, -, hrounds⟩, w, ⟨l, hl, hletter⟩, -⟩ := hleaves
    obtain ⟨ws, rfl, -, hws⟩ := hrounds.of_one
    obtain ⟨-, hrest⟩ := List.cons.inj hv
    rcases ws with _ | ⟨y, ws⟩
    · rw [hl, List.nil_append] at hrest
      rw [← (List.cons.inj hrest).1] at hletter
      cases hletter
    · have hy := hws y List.mem_cons_self
      rw [← (List.cons.inj hrest).1] at hy
      cases hy

/-- **The rule for tags** moves a comment into the stash. -/
theorem tag_comment (h : IsTag name behind) (inner : Reader) (s : State) :
    tag inner s (comment name behind) =
      (Nodes.placeholder s.nodes.length,
        { s with
          nodes := s.nodes ++ [.text (Stash.placeholder s.stash.entries.length)]
          stash := (s.stash.store
            (.html (Escaped.read (s.nodes.source (comment name behind))))).2 }) := by
  have hrun : tagPattern.run (.between [] (comment name behind)) some =
      some (.between (comment name behind) []) := by
    have hcomment := run_commentPattern h.apart_inside_opening h.apart_inside_hyphens
    rw [← comment_eq_inside] at hcomment
    exact run_tagPattern hcomment
  have hfind := Pattern.findFrom?_eq_some (a := []) (u := []) (fun u₁ x u₂ h => by
    cases u₁ <;> cases h) hrun
  rw [List.nil_append, List.nil_append] at hfind
  have hmatch : Pattern.toMatch (.between [] (comment name behind)) (.between (comment name behind) []) =
      ⟨[], comment name behind, [], 0, []⟩ := by
    simp [Pattern.toMatch, Cursor.between]
  have hmark : '<' ∉ Nodes.placeholder s.nodes.length := Nodes.not_mem_placeholder (by decide) rfl _
  rw [List.nil_append, hmatch] at hfind
  have hverdict : keepHtml s (Escaped.read (s.nodes.source (comment name behind)))
      ⟨[], comment name behind, [], 0, []⟩ =
        .accept (.node (.text (Stash.placeholder s.stash.entries.length)) [] [])
          { s with stash := (s.stash.store
              (.html (Escaped.read (s.nodes.source (comment name behind))))).2 } := rfl
  exact Rule.ofMatches_of_whole (f := fun s m => keepHtml s (Escaped.read (s.nodes.source m.text)) m)
    hfind hverdict (fun pos => Pattern.findFrom?_eq_none_of_forall
      (fun _ _ huv => tagPattern_eq_none hmark huv) pos) inner

/-! ### The whole reading -/

theorem lateMarks_not_mem_placeholder {c : Char} (hc : c ∈ lateMarks) (n : ℕ) :
    c ∉ Nodes.placeholder n := by
  have hlate : ∀ c ∈ lateMarks, c ∉ Nodes.head ++ [Stash.closing] ∧ Text.isDigit c = false := by
    decide
  exact Nodes.not_mem_placeholder (hlate c hc).1 (hlate c hc).2 n

namespace Undisturbed

/-- The characters that may stand in a comment only around a tag. -/
theorem not_mem (h : Undisturbed name behind) {c : Char}
    (hc : c ∈ Stash.opening :: Text.tick :: "$\n".toList) : c ∉ comment name behind := by
  have hfree : ∀ c ∈ Stash.opening :: Text.tick :: "$\n".toList,
      c ∉ "<!-> ".toList ∧ Text.isLetter c = false ∧ c ≠ '/' := by decide
  exact not_mem_comment (hfree c hc).1 (h.not_mem_name (hfree c hc).2) (h.free c hc)

/-- Protecting characters leaves what can stand behind the name of a tag. -/
theorem isTag_cover (h : Undisturbed name behind) (k : ℕ) :
    IsTag name (cover .extended k behind) where
  name := h.name
  head := by
    rcases behind with _ | ⟨c, t⟩
    · exact h.head
    · have hc : c = ' ' := h.head c rfl
      rw [cover_cons (by rw [hc]; decide)]
      exact fun x hx => hc ▸ (Option.some.inj hx).symm
  angle := not_mem_cover h.angle (Nodes.not_mem_placeholder (by decide) rfl) k
  hyphens := apart_cover h.hyphens (Nodes.not_mem_placeholder (by decide) rfl) (by decide) k

/-- **A comment is moved into the stash** as it was written. -/
theorem read_comment (h : Undisturbed name behind) (s : State) :
    ∃ n ns, read (rules .extended {}) s (comment name behind) =
        (Nodes.placeholder n, ⟨ns, (s.stash.store (.html (comment name behind))).2, s.fault⟩) ∧
      ns[n]? = some (.text (Stash.placeholder s.stash.entries.length)) := by
  set k := s.nodes.length with hk
  set s₁ := s.withEscaped (covered .extended (comment name behind)) with hs₁
  have htag := h.isTag_cover k
  have hfront := read_front (s := s) (t := comment name behind) (h.not_mem (by decide))
    (h.not_mem (by decide))
    (apart_comment (by decide) (by decide) (h.not_mem_name (by decide)) h.formula)
  rw [h.cover_comment] at hfront
  have hread := hfront
    (apart_comment (by decide) (by decide) (h.not_mem_name (by decide))
      (apart_cover h.link (Nodes.not_mem_placeholder (by decide) rfl) (by decide) k))
    (not_mem_comment (by decide) (h.not_mem_name (by decide))
      (not_mem_cover (h.free _ (by decide)) (Nodes.not_mem_placeholder (by decide) rfl) k))
    (noAddress_comment htag)
  rw [rulesFromTag, read_cons_of_eq (tag_comment htag _ s₁),
    read_behind_tag (fun c hc => lateMarks_not_mem_placeholder hc _)] at hread
  have hsource : Escaped.read (s₁.nodes.source (comment name (cover .extended k behind))) =
      comment name behind := by
    rw [← h.cover_comment]
    refine read_source_cover (h.not_mem (by decide)) fun i c hc => ?_
    simp [hs₁, hk, State.withEscaped, List.getElem?_append_right, hc]
  rw [hsource] at hread
  refine ⟨s₁.nodes.length, s₁.nodes ++ [.text (Stash.placeholder s.stash.entries.length)],
    hread, ?_⟩
  rw [List.getElem?_append_right le_rfl, Nat.sub_self]
  rfl

end Undisturbed

theorem expand_comment (h : Undisturbed name behind) (s : State) :
    ∃ ns, expand (rules .extended {}) (comment name behind) s =
      ((Stash.placeholder s.stash.entries.length, []),
        ⟨ns, (s.stash.store (.html (comment name behind))).2, s.fault⟩) := by
  obtain ⟨n, ns, hread, hn⟩ := h.read_comment s
  refine ⟨ns, ?_⟩
  unfold expand
  rw [hread]
  simp only [Nodes.resolve_placeholder hn]

/-- **A text without marks stays.** -/
theorem expand_eq_self {t : Text} (h : ∀ c ∈ marks, c ∉ t) (hopening : Stash.opening ∉ t)
    (s : State) : expand (rules .extended {}) t s = ((t, []), s) := by
  unfold expand
  rw [read_eq_self h]
  simp only [Nodes.resolve_eq_self fun _ _ hv => Nodes.leading?_of_suffix hopening hv]

/-- A placeholder for raw HTML stays. -/
theorem expand_placeholder (n : ℕ) (s : State) :
    expand (rules .extended {}) (Stash.placeholder n) s = ((Stash.placeholder n, []), s) := by
  have hmarks : ∀ c ∈ marks, c ∉ Stash.placeholder n := fun c hc => by
    have hwords : ∀ c ∈ marks, c ∉ Stash.head ++ [Stash.closing] ∧ Text.isDigit c = false := by
      decide
    exact Stash.not_mem_placeholder (hwords c hc).1 (hwords c hc).2 n
  unfold expand
  rw [read_eq_self hmarks]
  simp only [Nodes.resolve_htmlPlaceholder]

end MathPage.Markdown.Inline
