import MathPage.Markdown.Convert
import MathPage.Proofs.Markdown.Source
import MathPage.Proofs.Markdown.RawHtml.Comment

/-!
# Two comments in a document

* `Nesting.standing`, `Nesting.quoted`, `Nesting.listed` – two comments as paragraphs of a document,
  of a quote and of a list item;
* `Nesting.protect_standing` – comments of the document are moved into the stash;
* `Nesting.protect_quoted`, `Nesting.protect_listed` – comments inside of others stay in the text.
-/

namespace MathPage

/-! ### Comments as lines -/

namespace Marker.IsComment

variable {t : Text}

theorem getLast?_eq (h : IsComment t) : t.getLast? = some '>' := by
  obtain ⟨u, rfl, -⟩ := h
  rw [← List.append_assoc, List.getLast?_append_of_ne_nil _ (by decide)]
  rfl

theorem ne_nil (h : IsComment t) : t ≠ [] := by
  obtain ⟨u, rfl⟩ := h.exists_cons
  exact List.cons_ne_nil _ _

theorem printable (h : IsComment t) : ∀ c ∈ t, Text.isHidden c = false := by
  have hopen : ∀ c ∈ "<!--".toList, Text.isHidden c = false := by decide
  have hclose : ∀ c ∈ "-->".toList, Text.isHidden c = false := by decide
  obtain ⟨u, rfl, -, -, hu⟩ := h
  intro c hc
  rcases List.mem_append.1 hc with hc | hc
  · exact hopen c hc
  · rcases List.mem_append.1 hc with hc | hc
    · exact hu c hc
    · exact hclose c hc

theorem not_mem_of_isHidden (h : IsComment t) {c : Char} (hc : Text.isHidden c = true) :
    c ∉ t := fun hmem => by
  rw [h.printable c hmem] at hc
  cases hc

theorem newline_not_mem (h : IsComment t) : '\n' ∉ t := h.not_mem_of_isHidden (by decide)

/-- A comment behind other printable characters of its line. -/
theorem isPlainLine (h : IsComment t) {p : Text} (hp : ∀ c ∈ p, Text.isHidden c = false) :
    Markdown.Source.IsPlainLine (p ++ t) where
  printable := fun c hc => (List.mem_append.1 hc).elim (hp c) (h.printable c)
  clear := by
    obtain ⟨u, rfl⟩ := h.exists_cons
    refine if_neg fun hall => ?_
    rw [List.all_append, Bool.and_eq_true, List.all_cons, Bool.and_eq_true] at hall
    exact absurd hall.2.1 (by decide)

end Marker.IsComment

namespace Markdown.Nesting

open Marker (IsComment)

/-! ### The documents -/

/-- Two paragraphs of one line each. -/
def standing (a b : Text) : Text := Text.unlines [a, [], b]

/-- The same in a quote. -/
def quoted (a b : Text) : Text := Text.unlines ["> ".toList ++ a, "> ".toList, "> ".toList ++ b]

/-- The same in a list item. -/
def listed (a b : Text) : Text :=
  Text.unlines ["- item".toList, [], Block.tab ++ a, [], Block.tab ++ b]

/-! ### Normal forms -/

/-- A plain line that opens no fence. -/
def IsUnfenced (l : Text) : Prop :=
  Source.IsPlainLine l ∧ ∀ c ∈ Fence.marks, l.head? ≠ some c

theorem isUnfenced_of_word {l : Text} (h : (∀ c ∈ l, Text.isHidden c = false) ∧
    Source.clearLine l = l ∧ ∀ c ∈ Fence.marks, l.head? ≠ some c) : IsUnfenced l :=
  ⟨⟨h.1, h.2.1⟩, h.2.2⟩

theorem isUnfenced_comment {t p : Text} (ht : IsComment t)
    (hp : (∀ c ∈ p, Text.isHidden c = false) ∧ ∀ c ∈ Fence.marks, (p ++ ['<']).head? ≠ some c) :
    IsUnfenced (p ++ t) := by
  refine ⟨ht.isPlainLine hp.1, fun c hc hhead => hp.2 c hc ?_⟩
  obtain ⟨u, rfl⟩ := ht.exists_cons
  rcases p with _ | ⟨x, p⟩
  · exact hhead
  · exact hhead

/-- The normal form of plain lines that open no fence. -/
theorem extract_normalize {ls : List Text} (hne : ls ≠ []) (h : ∀ l ∈ ls, IsUnfenced l) (s : Stash) :
    Fence.extract (Source.normalize (Text.unlines ls)) s =
      .ok (Text.unlines (ls ++ [[], []]), s) := by
  rw [Source.normalize_unlines hne fun l hl => (h l hl).1]
  refine Fence.extract_eq_self (fun l hl c hc => ?_) s
  rw [Text.lines_unlines (List.append_ne_nil_of_left_ne_nil hne _) fun l' hl' => ?_] at hl
  · rcases List.mem_append.1 hl with hl | hl
    · exact (h l hl).2 c hc
    · have hblank : ∀ l ∈ ([[], []] : List Text), l = [] := by decide
      rw [hblank l hl]
      exact fun hnone => by cases hnone
  · rcases List.mem_append.1 hl' with hl' | hl'
    · exact (h l' hl').1.not_mem rfl
    · have hblank : ∀ l ∈ ([[], []] : List Text), '\n' ∉ l := by decide
      exact hblank l' hl'

theorem protect_of_fence {t t' : Text} {s s' : Stash} (h : Fence.extract t s = .ok (t', s')) :
    protect .extended t s = .ok (RawHtml.extract t' s') := by
  rw [protect, h]
  rfl

variable {a b : Text} (ha : IsComment a) (hb : IsComment b)
include ha hb

theorem extract_standing_fence (s : Stash) :
    Fence.extract (Source.normalize (standing a b)) s =
      .ok (a ++ ("\n\n".toList ++ (b ++ "\n\n".toList)), s) := by
  refine (extract_normalize (List.cons_ne_nil _ _) (fun l hl => ?_) s).trans ?_
  · simp only [List.mem_cons, List.not_mem_nil, or_false] at hl
    rcases hl with rfl | rfl | rfl
    · exact isUnfenced_comment (p := []) ha (by decide)
    · exact isUnfenced_of_word (by decide)
    · exact isUnfenced_comment (p := []) hb (by decide)
  · simp [Text.unlines, Text.join]

theorem extract_quoted_fence (s : Stash) :
    Fence.extract (Source.normalize (quoted a b)) s =
      .ok ("> ".toList ++ (a ++ ("\n> \n> ".toList ++ (b ++ "\n\n".toList))), s) := by
  refine (extract_normalize (List.cons_ne_nil _ _) (fun l hl => ?_) s).trans ?_
  · simp only [List.mem_cons, List.not_mem_nil, or_false] at hl
    rcases hl with rfl | rfl | rfl
    · exact isUnfenced_comment ha (by decide)
    · exact isUnfenced_of_word (by decide)
    · exact isUnfenced_comment hb (by decide)
  · simp [Text.unlines, Text.join]

theorem extract_listed_fence (s : Stash) :
    Fence.extract (Source.normalize (listed a b)) s =
      .ok ("- item\n\n    ".toList ++ (a ++ ("\n\n    ".toList ++ (b ++ "\n\n".toList))), s) := by
  refine (extract_normalize (List.cons_ne_nil _ _) (fun l hl => ?_) s).trans ?_
  · simp only [List.mem_cons, List.not_mem_nil, or_false] at hl
    rcases hl with rfl | rfl | rfl | rfl | rfl
    · exact isUnfenced_of_word (by decide)
    · exact isUnfenced_of_word (by decide)
    · exact isUnfenced_comment ha (by decide)
    · exact isUnfenced_of_word (by decide)
    · exact isUnfenced_comment hb (by decide)
  · simp [Text.unlines, Text.join, Block.tab]

/-! ### Raw HTML -/

open RawHtml in
/-- **Comments of the document are moved into the stash.** -/
theorem extract_standing (s : Stash) :
    RawHtml.extract (a ++ ("\n\n".toList ++ (b ++ "\n\n".toList))) s =
      (Stash.placeholder s.entries.length ++ ("\n\n\n\n".toList ++
          (Stash.placeholder (s.entries.length + 1) ++ "\n\n\n\n".toList)),
        ⟨s.entries ++ [.html (a ++ ['\n']), .html (b ++ ['\n'])]⟩) := by
  have hbreak : ∀ c ∈ "\n\n".toList, c ≠ '<' ∧ c ≠ '&' := by decide
  obtain ⟨u, hu⟩ := hb.exists_cons
  have hstart : ∀ c ∈ (b ++ "\n\n".toList).head?, c = '<' ∨ c = '&' := by
    rw [hu]
    exact fun c hc => Or.inl (Option.some.inj hc).symm
  have hline : lastLine (a ++ "\n\n".toList) = [] := by
    rw [lastLine_append_of_mem _ (by decide)]
    decide
  have h₀ := Reading.init s (a ++ ("\n\n".toList ++ (b ++ "\n\n".toList)))
  obtain ⟨s₁, h₁, hpass₁⟩ := h₀.comment_kept ha (by decide) (fun _ hc => by cases hc) rfl
  obtain ⟨s₂, h₂, hpass₂⟩ := h₁.text (by decide) hbreak hstart
  obtain ⟨s₃, h₃, hpass₃⟩ := h₂.comment_kept hb (by rw [List.nil_append, hline]; decide)
    (fun x hx => Or.inr (Option.some.inj hx ▸ by decide)) rfl
  have h₃' : Reading s₃ ([] ++ a ++ "\n\n".toList ++ b) ("\n\n".toList ++ []) _ _ := h₃
  obtain ⟨s₄, h₄, hpass₄⟩ := h₃'.text (by decide) hbreak (fun _ hc => by cases hc)
  have hpast : [] ++ a ++ "\n\n".toList ++ b ++ "\n\n".toList =
      a ++ ("\n\n".toList ++ (b ++ "\n\n".toList)) := by
    simp only [List.nil_append, List.append_assoc]
  rw [hpast] at h₄
  refine (extract_of_reading h₄ (hpass₁.trans (hpass₂.trans (hpass₃.trans hpass₄)))).trans ?_
  simp [Stash.store]

open RawHtml in
/-- **Comments behind other text are left where they are.** -/
theorem extract_inside {p q : Text} (hp : p ≠ [] ∧ IsProse p) (hq : q ≠ [] ∧ IsProse q)
    (hpline : (decide ((lastLine p).length ≤ 3) && Text.allBlank (lastLine p)) = false)
    (hqline : '\n' ∈ q ∧ (decide ((lastLine q).length ≤ 3) && Text.allBlank (lastLine q)) = false)
    (s : Stash) :
    RawHtml.extract (p ++ (a ++ (q ++ (b ++ "\n\n".toList)))) s =
      (p ++ (a ++ (q ++ (b ++ "\n\n".toList))), s) := by
  have hstart : ∀ {t : Text}, IsComment t → ∀ u, ∀ c ∈ (t ++ u).head?, c = '<' ∨ c = '&' :=
    fun ht u => by
      obtain ⟨v, rfl⟩ := ht.exists_cons
      exact fun c hc => Or.inl (Option.some.inj hc).symm
  have h₀ := Reading.init s (p ++ (a ++ (q ++ (b ++ "\n\n".toList))))
  obtain ⟨s₁, h₁, hpass₁⟩ := h₀.text hp.1 hp.2 (hstart ha _)
  obtain ⟨s₂, h₂, hpass₂⟩ := h₁.comment_left ha hpline
  obtain ⟨s₃, h₃, hpass₃⟩ := h₂.text hq.1 hq.2 (hstart hb _)
  obtain ⟨s₄, h₄, hpass₄⟩ := h₃.comment_left hb (by rw [lastLine_append_of_mem _ hqline.1, hqline.2])
  have h₄' : Reading s₄ ([] ++ p ++ a ++ q ++ b) ("\n\n".toList ++ []) _ _ := h₄
  obtain ⟨s₅, h₅, hpass₅⟩ := h₄'.text (by decide) (by decide) (fun _ hc => by cases hc)
  have hpast : [] ++ p ++ a ++ q ++ b ++ "\n\n".toList =
      p ++ (a ++ (q ++ (b ++ "\n\n".toList))) := by
    simp only [List.nil_append, List.append_assoc]
  rw [hpast] at h₅
  refine (extract_of_reading h₅
    (hpass₁.trans (hpass₂.trans (hpass₃.trans (hpass₄.trans hpass₅))))).trans ?_
  simp

/-! ### What the blocks are read from -/

/-- **Comments of the document are moved into the stash**, each with a line end behind it. -/
theorem protect_standing (s : Stash) :
    protect .extended (Source.normalize (standing a b)) s =
      .ok (Stash.placeholder s.entries.length ++ ("\n\n\n\n".toList ++
          (Stash.placeholder (s.entries.length + 1) ++ "\n\n\n\n".toList)),
        ⟨s.entries ++ [.html (a ++ ['\n']), .html (b ++ ['\n'])]⟩) := by
  rw [protect_of_fence (extract_standing_fence ha hb s), extract_standing ha hb]

/-- **Comments of a quote stay in the text.** -/
theorem protect_quoted (s : Stash) :
    protect .extended (Source.normalize (quoted a b)) s =
      .ok ("> ".toList ++ (a ++ ("\n> \n> ".toList ++ (b ++ "\n\n".toList))), s) := by
  rw [protect_of_fence (extract_quoted_fence ha hb s),
    extract_inside ha hb (by decide) (by decide) (by decide) (by decide)]

/-- **Comments of a list item stay in the text.** -/
theorem protect_listed (s : Stash) :
    protect .extended (Source.normalize (listed a b)) s =
      .ok ("- item\n\n    ".toList ++ (a ++ ("\n\n    ".toList ++ (b ++ "\n\n".toList))), s) := by
  rw [protect_of_fence (extract_listed_fence ha hb s),
    extract_inside ha hb (by decide) (by decide) (by decide) (by decide)]

end Markdown.Nesting

end MathPage
