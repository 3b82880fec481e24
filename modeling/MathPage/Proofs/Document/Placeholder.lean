import MathPage.Document.Restore
import MathPage.Proofs.Document.Stash

/-!
# Placeholders in texts

* `Stash.pieces` – a text as its characters and the placeholders among them, read from left to
  right; `Stash.positions`, the positions that they name;
* `Stash.substitute` – a text with something else in the place of each placeholder;
* `Stash.raise` – a text whose placeholders name positions further on; `Stash.spell`, a text with the
  pieces of a stash in the place of their placeholders;
* `Stash.Names` – an element that names a position, said by how its text is written, with a numeral
  of no more than a given number of digits or of any length.

A placeholder is opened by a character that stands nowhere else in it, so that nothing new can be
read as a placeholder when the ones that stand in a text give way to others (`pieces_raise`). A text
therefore is a placeholder between blanks exactly if the raised one is (`index?_strip_raise`).
-/

namespace MathPage

namespace Stash

/-! ### One placeholder -/

/-- A text opens with a placeholder if it opens with its characters. -/
theorem leading?_eq_some_iff {t r : Text} {n : ℕ} :
    leading? t = some (n, r) ↔
      ∃ ds, Text.ofDecimal? ds = some n ∧ t = head ++ (ds ++ closing :: r) := by
  constructor
  · intro h
    unfold leading? at h
    cases hafter : Text.after? head t with
    | none => simp [hafter] at h
    | some rest =>
      simp only [hafter] at h
      obtain rfl := Text.eq_append_of_after? hafter
      cases hdrop : rest.drop (rest.takeWhile Text.isDigit).length with
      | nil => simp [hdrop] at h
      | cons c rest' =>
        simp only [hdrop] at h
        split at h
        · rename_i hc
          subst hc
          obtain ⟨m, hm, heq⟩ := Option.map_eq_some_iff.1 h
          obtain ⟨rfl, rfl⟩ := Prod.mk.inj heq
          refine ⟨rest.takeWhile Text.isDigit, hm, ?_⟩
          rw [← hdrop, List.prefix_iff_eq_append.1 (List.takeWhile_prefix _)]
        · cases h
  · rintro ⟨ds, hn, rfl⟩
    obtain ⟨-, hds, -⟩ := Text.ofDecimal?_eq_some_iff.1 hn
    have hclosing : Text.isDigit closing = false := rfl
    have htake : (ds ++ closing :: r).takeWhile Text.isDigit = ds := by
      rw [List.takeWhile_append_of_pos hds, List.takeWhile_cons_of_neg (by simp [hclosing]),
        List.append_nil]
    simp only [leading?, Text.after?_append, htake, List.drop_left, if_true, hn, Option.map_some]

/-- A text is a placeholder if it is written as one. -/
theorem index?_eq_some_iff {t : Text} {n : ℕ} :
    index? t = some n ↔ ∃ ds, Text.ofDecimal? ds = some n ∧ t = head ++ (ds ++ [closing]) := by
  constructor
  · intro h
    unfold index? at h
    cases hafter : Text.after? head t with
    | none => simp [hafter] at h
    | some rest =>
      simp only [hafter] at h
      obtain rfl := Text.eq_append_of_after? hafter
      cases hreverse : rest.reverse with
      | nil => simp [hreverse] at h
      | cons c ds =>
        simp only [hreverse] at h
        split at h
        · rename_i hc
          subst hc
          refine ⟨ds.reverse, h, ?_⟩
          rw [← List.reverse_reverse rest, hreverse, List.reverse_cons]
        · cases h
  · rintro ⟨ds, hn, rfl⟩
    simp [index?, hn]

theorem leading?_placeholder (n : ℕ) (t : Text) : leading? (placeholder n ++ t) = some (n, t) :=
  leading?_eq_some_iff.2 ⟨Text.decimal n, Text.ofDecimal?_decimal n, by simp [placeholder]⟩

theorem leading?_nil : leading? [] = none := rfl

theorem leading?_of_ne {c : Char} (hc : c ≠ opening) (t : Text) : leading? (c :: t) = none := by
  have hafter : Text.after? head (c :: t) = none := if_neg (Ne.symm hc)
  rw [leading?, hafter]

/-- What is read is not empty. -/
theorem length_of_leading? {t r : Text} {n : ℕ} (h : leading? t = some (n, r)) :
    r.length < t.length := by
  obtain ⟨ds, -, rfl⟩ := leading?_eq_some_iff.1 h
  simp only [List.length_append, List.length_cons]
  omega

/-- What a placeholder is written with behind its first character. -/
theorem opening_not_mem {ds : Text} {n : ℕ} (hn : Text.ofDecimal? ds = some n) :
    opening ∉ "wzxhzdk:".toList ++ (ds ++ [closing]) := by
  obtain ⟨-, hds, -⟩ := Text.ofDecimal?_eq_some_iff.1 hn
  rw [List.mem_append, List.mem_append]
  rintro (h | h | h)
  · exact absurd h (by decide)
  · exact absurd (hds _ h) (by decide)
  · exact absurd h (by decide)

/-! ### All placeholders of a text -/

/-- A character that belongs to no placeholder, or a placeholder by the position it names. -/
inductive Piece where
  | char (c : Char)
  | place (n : ℕ)

/-- Reads pieces from left to right; `fuel` bounds the number of characters. -/
def piecesFuel : ℕ → Text → List Piece
  | 0, _ => []
  | _ + 1, [] => []
  | fuel + 1, c :: t =>
    match leading? (c :: t) with
    | some (n, rest) => .place n :: piecesFuel fuel rest
    | none => .char c :: piecesFuel fuel t

/-- The characters and the placeholders of a text. -/
def pieces (t : Text) : List Piece := piecesFuel t.length t

theorem piecesFuel_eq {fuel : ℕ} {t : Text} (h : t.length ≤ fuel) : piecesFuel fuel t = pieces t :=
  Text.eq_of_fuel (f := piecesFuel) (fun n => by cases n <;> rfl) (fun n m c t ih => by
    simp only [piecesFuel]
    split
    · rename_i hr
      rw [ih _ (length_of_leading? hr)]
    · rw [ih _ (Nat.lt_succ_self _)]) h le_rfl

@[simp] theorem pieces_nil : pieces [] = [] := rfl

theorem pieces_char {c : Char} {t : Text} (h : leading? (c :: t) = none) :
    pieces (c :: t) = .char c :: pieces t := by
  rw [pieces, List.length_cons, piecesFuel, h, pieces]

theorem pieces_place {t r : Text} {n : ℕ} (h : leading? t = some (n, r)) :
    pieces t = .place n :: pieces r := by
  rcases t with _ | ⟨c, t⟩
  · simp [leading?_nil] at h
  · rw [pieces, List.length_cons, piecesFuel, h]
    exact congrArg _ (piecesFuel_eq (Nat.le_of_lt_succ (length_of_leading? h)))

/-- Induction along the pieces of a text. -/
theorem pieces_induction {P : Text → Prop} (nil : P [])
    (char : ∀ c t, leading? (c :: t) = none → P t → P (c :: t))
    (place : ∀ t n r, leading? t = some (n, r) → P r → P t) (t : Text) : P t := by
  induction hn : t.length using Nat.strongRecOn generalizing t with
  | ind k ih =>
    subst hn
    cases h : leading? t with
    | some nr => exact place t nr.1 nr.2 h (ih _ (length_of_leading? h) nr.2 rfl)
    | none =>
      cases t with
      | nil => exact nil
      | cons c t => exact char c t h (ih _ (Nat.lt_succ_self _) t rfl)

/-- How a piece is written. -/
def Piece.write (f : ℕ → Text) : Piece → Text
  | .char c => [c]
  | .place n => f n

/-- A text with `f n` in the place of each placeholder for the position `n`. -/
def substitute (f : ℕ → Text) (t : Text) : Text := (pieces t).flatMap (Piece.write f)

/-- The position that a piece names. -/
def Piece.place? : Piece → Option ℕ
  | .char _ => none
  | .place n => some n

/-- The positions that the placeholders of a text name. -/
def positions (t : Text) : List ℕ := (pieces t).filterMap Piece.place?

section Substitute

variable {f g : ℕ → Text}

@[simp] theorem substitute_nil : substitute f [] = [] := rfl

theorem substitute_char {c : Char} {t : Text} (h : leading? (c :: t) = none) :
    substitute f (c :: t) = c :: substitute f t := by
  rw [substitute, pieces_char h, List.flatMap_cons]
  rfl

theorem substitute_place {t r : Text} {n : ℕ} (h : leading? t = some (n, r)) :
    substitute f t = f n ++ substitute f r := by
  rw [substitute, pieces_place h, List.flatMap_cons]
  rfl

@[simp] theorem substitute_placeholder (n : ℕ) : substitute f (placeholder n) = f n := by
  have h := leading?_placeholder n []
  rw [List.append_nil] at h
  rw [substitute_place h, substitute_nil, List.append_nil]

/-- Only the positions that a text names are looked at. -/
theorem substitute_congr {t : Text} (h : ∀ n ∈ positions t, f n = g n) :
    substitute f t = substitute g t := by
  refine List.flatMap_congr fun p hp => ?_
  cases p with
  | char c => rfl
  | place n => exact h n (List.mem_filterMap.2 ⟨_, hp, rfl⟩)

end Substitute

/-- How a text reads through a stash: `write` says how a piece is written, and a placeholder for none
stays. -/
def spell (write : Entry → Text) (s : Stash) (t : Text) : Text :=
  substitute (fun n => (s.entries[n]?.map write).getD (placeholder n)) t

/-! ### Raised placeholders -/

/-- A text whose placeholders name positions that are further on by `d`. -/
def raise (d : ℕ) (t : Text) : Text := substitute (fun n => placeholder (n + d)) t

theorem raise_char {c : Char} {t : Text} (h : leading? (c :: t) = none) (d : ℕ) :
    raise d (c :: t) = c :: raise d t := substitute_char h

theorem raise_place {t r : Text} {n : ℕ} (h : leading? t = some (n, r)) (d : ℕ) :
    raise d t = placeholder (n + d) ++ raise d r := substitute_place h

/-- A part of a raised text in which no placeholder begins is a part of the text. -/
theorem exists_of_raise_eq_append {d : ℕ} {v r : Text} (hv : opening ∉ v) {t : Text}
    (h : raise d t = v ++ r) : ∃ u, t = v ++ u := by
  induction v generalizing t with
  | nil => exact ⟨t, rfl⟩
  | cons x v ih =>
    cases hlead : leading? t with
    | some nu =>
      -- the raised text begins as a placeholder does
      rw [raise_place hlead] at h
      exact absurd (List.cons.inj h).1 (List.ne_of_not_mem_cons hv)
    | none =>
      cases t with
      | nil => cases h
      | cons c t =>
        rw [raise_char hlead] at h
        obtain ⟨rfl, htail⟩ := List.cons.inj h
        obtain ⟨u, rfl⟩ := ih (List.not_mem_of_not_mem_cons hv) htail
        exact ⟨u, rfl⟩

/-- Raising makes no placeholder of a character that belonged to none. -/
theorem leading?_raise {d : ℕ} {c : Char} {t : Text} (h : leading? (c :: t) = none) :
    leading? (c :: raise d t) = none := by
  by_contra hsome
  obtain ⟨⟨n, r⟩, hnr⟩ := Option.ne_none_iff_exists'.1 hsome
  obtain ⟨ds, hn, heq⟩ := leading?_eq_some_iff.1 hnr
  obtain ⟨rfl, htail⟩ := List.cons.inj heq
  have hraise : raise d t = "wzxhzdk:".toList ++ (ds ++ [closing]) ++ r := by
    rw [htail]
    simp
  obtain ⟨u, rfl⟩ := exists_of_raise_eq_append (opening_not_mem hn) hraise
  have hlead : leading? (opening :: ("wzxhzdk:".toList ++ (ds ++ [closing]) ++ u)) = some (n, u) :=
    leading?_eq_some_iff.2 ⟨ds, hn, by simp [head]⟩
  rw [hlead] at h
  cases h

/-- A piece that names a position further on. -/
def Piece.raise (d : ℕ) : Piece → Piece
  | .char c => .char c
  | .place n => .place (n + d)

theorem Piece.raise_eq_place {d n : ℕ} {p : Piece} (h : p.raise d = .place n) :
    ∃ m, p = .place m ∧ m + d = n := by
  cases p with
  | char c => cases h
  | place m => exact ⟨m, rfl, Piece.place.inj h⟩

/-- Characters stay what they are. -/
theorem Piece.map_raise_eq_chars {d : ℕ} {ps : List Piece} {a : Text}
    (h : ps.map (Piece.raise d) = a.map .char) : ps = a.map .char := by
  induction ps generalizing a with
  | nil => exact h
  | cons p ps ih =>
    cases a with
    | nil => cases h
    | cons c a =>
      obtain ⟨hp, hps⟩ := List.cons.inj h
      cases p with
      | char x => rw [ih hps, List.map_cons, ← hp, Piece.raise]
      | place n => cases hp

/-- **Raising changes the placeholders of a text and nothing else.** -/
theorem pieces_raise (d : ℕ) (t : Text) : pieces (raise d t) = (pieces t).map (Piece.raise d) := by
  induction t using pieces_induction with
  | nil => rfl
  | char c t h ih =>
    rw [raise_char h, pieces_char (leading?_raise h), pieces_char h, List.map_cons, ih]
    rfl
  | place t n r h ih =>
    rw [raise_place h, pieces_place (leading?_placeholder _ _), pieces_place h, List.map_cons, ih]
    rfl

/-! ### Placeholders between blanks -/

theorem isBlank_opening : Text.isBlank opening = false := by decide

theorem isBlank_closing : Text.isBlank closing = false := by decide

theorem pieces_of_opening_not_mem {a : Text} (ha : opening ∉ a) (t : Text) :
    pieces (a ++ t) = a.map .char ++ pieces t := by
  induction a with
  | nil => rfl
  | cons c a ih =>
    rw [List.cons_append, pieces_char (leading?_of_ne (List.ne_of_not_mem_cons ha).symm _),
      ih (List.not_mem_of_not_mem_cons ha), List.map_cons, List.cons_append]

theorem opening_not_mem_of_blank {a : Text} (ha : ∀ c ∈ a, Text.isBlank c) : opening ∉ a :=
  fun h => by
    have hblank := ha _ h
    rw [isBlank_opening] at hblank
    cases hblank

/-- Pieces that begin as the characters of a text do come from a text that does. -/
theorem eq_append_of_pieces {a t : Text} {ps : List Piece} (h : pieces t = a.map .char ++ ps) :
    ∃ u, t = a ++ u ∧ pieces u = ps := by
  induction a generalizing t with
  | nil => exact ⟨t, rfl, h⟩
  | cons c a ih =>
    cases hlead : leading? t with
    | some nr =>
      rw [pieces_place hlead] at h
      cases (List.cons.inj h).1
    | none =>
      cases t with
      | nil => cases h
      | cons x t =>
        rw [pieces_char hlead] at h
        obtain ⟨hx, htail⟩ := List.cons.inj h
        obtain ⟨u, rfl, hu⟩ := ih htail
        cases hx
        exact ⟨u, rfl, hu⟩

theorem leading?_of_pieces {t : Text} {n : ℕ} {ps : List Piece} (h : pieces t = .place n :: ps) :
    ∃ r, leading? t = some (n, r) ∧ pieces r = ps := by
  cases hlead : leading? t with
  | some mr =>
    rw [pieces_place hlead] at h
    obtain ⟨hm, hr⟩ := List.cons.inj h
    cases hm
    exact ⟨mr.2, rfl, hr⟩
  | none =>
    cases t with
    | nil => cases h
    | cons c t =>
      rw [pieces_char hlead] at h
      cases (List.cons.inj h).1

theorem eq_of_pieces {a t : Text} (h : pieces t = a.map .char) : t = a := by
  have hend : pieces t = a.map .char ++ [] := h.trans (List.append_nil _).symm
  obtain ⟨u, rfl, hu⟩ := eq_append_of_pieces hend
  cases hlead : leading? u with
  | some nr => simp [pieces_place hlead] at hu
  | none =>
    cases u with
    | nil => exact List.append_nil a
    | cons c u => simp [pieces_char hlead] at hu

/-- A text is a placeholder between blanks if it is written as one. -/
theorem index?_strip_eq_some_iff {t : Text} {n : ℕ} :
    index? (Text.strip t) = some n ↔ ∃ a b ds : Text, (∀ c ∈ a, Text.isBlank c) ∧
      (∀ c ∈ b, Text.isBlank c) ∧ Text.ofDecimal? ds = some n ∧
      t = a ++ (head ++ (ds ++ [closing])) ++ b := by
  constructor
  · intro h
    obtain ⟨a, b, ha, hb, ht⟩ := Text.exists_eq_append_strip t
    obtain ⟨ds, hn, hstrip⟩ := index?_eq_some_iff.1 h
    exact ⟨a, b, ds, ha, hb, hn, hstrip ▸ ht⟩
  · rintro ⟨a, b, ds, ha, hb, hn, rfl⟩
    refine index?_eq_some_iff.2 ⟨ds, hn, ?_⟩
    rw [Text.strip_append ha hb]
    exact Text.strip_eq_self (t := "wzxhzdk:".toList ++ ds) isBlank_opening isBlank_closing

/-- A text is a placeholder between blanks if its pieces are. -/
theorem index?_strip_iff {t : Text} {n : ℕ} :
    index? (Text.strip t) = some n ↔ ∃ a b : Text, (∀ c ∈ a, Text.isBlank c) ∧
      (∀ c ∈ b, Text.isBlank c) ∧ pieces t = a.map .char ++ .place n :: b.map .char := by
  rw [index?_strip_eq_some_iff]
  constructor
  · rintro ⟨a, b, ds, ha, hb, hn, rfl⟩
    have hlead : leading? (head ++ (ds ++ [closing]) ++ b) = some (n, b) :=
      leading?_eq_some_iff.2 ⟨ds, hn, by simp⟩
    refine ⟨a, b, ha, hb, ?_⟩
    rw [List.append_assoc, pieces_of_opening_not_mem (opening_not_mem_of_blank ha),
      pieces_place hlead, ← List.append_nil b,
      pieces_of_opening_not_mem (opening_not_mem_of_blank hb)]
    simp
  · rintro ⟨a, b, ha, hb, h⟩
    obtain ⟨u, rfl, hu⟩ := eq_append_of_pieces h
    obtain ⟨r, hlead, hr⟩ := leading?_of_pieces hu
    obtain rfl := eq_of_pieces hr
    obtain ⟨ds, hn, rfl⟩ := leading?_eq_some_iff.1 hlead
    exact ⟨a, r, ds, ha, hb, hn, by simp⟩

/-- A raised text is a placeholder between blanks if the text is one. -/
theorem index?_strip_raise (d : ℕ) (t : Text) :
    index? (Text.strip (raise d t)) = (index? (Text.strip t)).map (· + d) := by
  ext n
  rw [Option.map_eq_some_iff, index?_strip_iff, pieces_raise]
  constructor
  · rintro ⟨a, b, ha, hb, h⟩
    obtain ⟨ps, qs, hpieces, hps, hqs⟩ := List.map_eq_append_iff.1 h
    obtain ⟨q, rs, rfl, hq, hrs⟩ := List.map_eq_cons_iff.1 hqs
    obtain ⟨m, rfl, rfl⟩ := Piece.raise_eq_place hq
    rw [Piece.map_raise_eq_chars hps, Piece.map_raise_eq_chars hrs] at hpieces
    exact ⟨m, index?_strip_iff.2 ⟨a, b, ha, hb, hpieces⟩, rfl⟩
  · rintro ⟨m, hm, rfl⟩
    obtain ⟨a, b, ha, hb, h⟩ := index?_strip_iff.1 hm
    exact ⟨a, b, ha, hb, by simp [h, Piece.raise, Function.comp_def]⟩

/-! ### Elements that name a position -/

/-- A placeholder with `k` zeros in front of its numeral. -/
def padded (k n : ℕ) : Text := head ++ (List.replicate k '0' ++ Text.decimal n) ++ [closing]

@[simp] theorem padded_zero (n : ℕ) : padded 0 n = placeholder n := rfl

/-- An element names a position: it is a paragraph without children that holds a placeholder for the
position, perhaps a padded one, between blanks. -/
def Names (e : Element) (n : ℕ) : Prop :=
  e.tag = "p".toList ∧ e.children = [] ∧ ∃ (a b : Text) (k : ℕ), (∀ c ∈ a, Text.isBlank c) ∧
    (∀ c ∈ b, Text.isBlank c) ∧ e.text = some (a ++ padded k n ++ b)

/-- An element names a position by a numeral of at most `limit` digits, zeros in front included. -/
def NamesWithin (limit : ℕ) (e : Element) (n : ℕ) : Prop :=
  e.tag = "p".toList ∧ e.children = [] ∧ ∃ (a b : Text) (k : ℕ), (∀ c ∈ a, Text.isBlank c) ∧
    (∀ c ∈ b, Text.isBlank c) ∧ k + (Text.decimal n).length ≤ limit ∧
    e.text = some (a ++ padded k n ++ b)

theorem NamesWithin.names {limit n : ℕ} {e : Element} (h : NamesWithin limit e n) : Names e n := by
  obtain ⟨htag, hnil, a, b, k, ha, hb, -, htext⟩ := h
  exact ⟨htag, hnil, a, b, k, ha, hb, htext⟩

theorem index?_strip_iff_padded {t : Text} {n : ℕ} :
    index? (Text.strip t) = some n ↔ ∃ (a b : Text) (k : ℕ), (∀ c ∈ a, Text.isBlank c) ∧
      (∀ c ∈ b, Text.isBlank c) ∧ t = a ++ padded k n ++ b := by
  rw [index?_strip_eq_some_iff]
  constructor
  · rintro ⟨a, b, ds, ha, hb, hn, rfl⟩
    obtain ⟨k, rfl⟩ := Text.ofDecimal?_eq_some_iff_decimal.1 hn
    exact ⟨a, b, k, ha, hb, by rw [padded, List.append_assoc head]⟩
  · rintro ⟨a, b, k, ha, hb, rfl⟩
    exact ⟨a, b, _, ha, hb, Text.ofDecimal?_eq_some_iff_decimal.2 ⟨k, rfl⟩,
      by rw [padded, List.append_assoc head]⟩

/-- **What is read as a position is named.** -/
theorem place?_eq_some_iff {e : Element} {n : ℕ} : place? e = some n ↔ Names e n := by
  have hp : (e.hasTag "p" && e.children.isEmpty) = true ↔ e.tag = "p".toList ∧ e.children = [] := by
    rw [Bool.and_eq_true, Element.hasTag, beq_iff_eq, List.isEmpty_iff]
  unfold place? Names
  split
  · rename_i h
    obtain ⟨htag, hnil⟩ := hp.1 h
    simp only [htag, hnil, true_and, Option.bind_eq_some_iff, index?_strip_iff_padded]
    constructor
    · rintro ⟨t, ht, a, b, k, ha, hb, rfl⟩
      exact ⟨a, b, k, ha, hb, ht⟩
    · rintro ⟨a, b, k, ha, hb, ht⟩
      exact ⟨_, ht, a, b, k, ha, hb, rfl⟩
  · rename_i h
    simp only [reduceCtorEq, false_iff]
    rintro ⟨htag, hnil, -⟩
    exact h (hp.2 ⟨htag, hnil⟩)

/-- An element that names a position stands for the HTML there, if there is any. -/
theorem value?_of_names {e : Element} {n : ℕ} (h : Names e n) (s : Stash) :
    s.value? e = s.entries[n]?.bind Entry.html? := by
  rw [value?_eq, place?_eq_some_iff.2 h, Option.bind_some]

/-- An element that names no position stands for nothing. -/
theorem value?_of_not_names {e : Element} (h : ∀ n, ¬ Names e n) (s : Stash) :
    s.value? e = none := by
  rw [value?_eq, Option.eq_none_iff_forall_ne_some.2 fun n hn => h n (place?_eq_some_iff.1 hn),
    Option.bind_none]

end Stash

end MathPage
