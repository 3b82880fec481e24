import MathPage.Equation.Marker
import MathPage.Proofs.Text.Basic

/-!
# Markers as they are written

* `Marker.comment` – a comment around a tag; both markers are such comments;
* `Marker.Writable` – the equations whose attributes can be written into a marker;
* `Marker.behind?_quoted` – how the search for an attribute passes over a quoted text;
* `Marker.exists_attributes_start` – a written start marker can be read;
* `Marker.isStart_start` – a written start marker is one, whatever follows it.
-/

namespace MathPage.Marker

/-- A comment around a tag: the name of the tag and what follows the name. -/
def comment (name behind : Text) : Text :=
  "<!-- <".toList ++ (name ++ (behind ++ "> -->".toList))

/-- The attributes of an equation as they are written. -/
def fields (e : Equation) : Text :=
  field "label" e.label ++ field "alt" e.alt ++ field "raw" e.raw

theorem start_eq_comment (e : Equation) : start e = comment "equation".toList (fields e) := by
  have hopener : opener = "<!-- <".toList ++ "equation".toList := rfl
  unfold start comment fields closer
  rw [hopener]
  simp only [List.append_assoc]

theorem stop_eq_comment : stop = comment "/equation".toList [] := rfl

/-! ### Comments around a tag -/

/-- A comment of printable characters: it ends in a space, and there are no two hyphens in a row
inside. -/
def IsComment (t : Text) : Prop :=
  ∃ u, t = "<!--".toList ++ (u ++ "-->".toList) ∧ Text.Apart '-' '-' u ∧ u.getLast? = some ' ' ∧
    ∀ c ∈ u, Text.isHidden c = false

theorem IsComment.exists_cons {t : Text} (h : IsComment t) : ∃ u, t = '<' :: u := by
  obtain ⟨u, rfl, -⟩ := h
  exact ⟨_, rfl⟩

/-- The name of a tag and what follows the name, as both may stand in a comment. -/
structure IsTag (name behind : Text) : Prop where
  name : ∀ c ∈ name, Text.isLetter c = true ∨ c = '/'
  head : ∀ c ∈ behind.head?, c = ' '
  angle : '<' ∉ behind
  hyphens : Text.Apart '-' '-' behind

/-- The inside of a comment, up to the last space. -/
def inside (name behind : Text) : Text := " <".toList ++ (name ++ (behind ++ ['>']))

theorem comment_eq_inside (name behind : Text) :
    comment name behind = "<!--".toList ++ (inside name behind ++ [' '] ++ "-->".toList) := by
  unfold comment inside
  simp only [List.append_assoc]
  rfl

theorem inside_concat (name behind : Text) :
    inside name behind ++ [' '] = ' ' :: '<' :: (name ++ (behind ++ "> ".toList)) := by
  unfold inside
  simp only [List.append_assoc]
  rfl

namespace IsTag

variable {name behind : Text}

/-- A character that is no letter and no slash does not stand in the name. -/
theorem not_mem_name (h : IsTag name behind) {c : Char}
    (hc : Text.isLetter c = false ∧ c ≠ '/') : c ∉ name := fun hmem => by
  rcases h.name c hmem with hl | rfl
  · rw [hc.1] at hl
    cases hl
  · exact hc.2 rfl

/-- What comes first behind the bracket of the tag. -/
theorem head?_ne (h : IsTag name behind) (t : Text) :
    (name ++ (behind ++ '>' :: t)).head? ≠ some '!' := by
  rcases name with _ | ⟨c, name⟩
  · rcases behind with _ | ⟨c, behind⟩
    · simp
    · rw [h.head c rfl]
      simp
  · intro hc
    rcases h.name c List.mem_cons_self with hl | rfl
    · rw [Option.some.inj hc] at hl
      cases hl
    · cases Option.some.inj hc

/-- In the inside of a comment no comment begins. -/
theorem apart_inside_opening (h : IsTag name behind) :
    Text.Apart '<' '!' (inside name behind ++ [' ']) := by
  rw [inside_concat]
  refine Text.apart_cons.2 ⟨fun h => absurd h (by decide), Text.apart_cons.2 ⟨fun _ =>
    h.head?_ne [' '], Text.apart_of_not_mem fun hmem => ?_⟩⟩
  rw [List.mem_append, List.mem_append] at hmem
  rcases hmem with hmem | hmem | hmem
  · exact h.not_mem_name (by decide) hmem
  · exact h.angle hmem
  · exact absurd hmem (by decide)

/-- The inside of a comment does not end the comment. -/
theorem apart_inside_hyphens (h : IsTag name behind) :
    Text.Apart '-' '-' (inside name behind ++ [' ']) := by
  have hname : '-' ∉ name := h.not_mem_name (by decide)
  rw [inside_concat]
  refine Text.apart_cons.2 ⟨fun h => absurd h (by decide), Text.apart_cons.2
    ⟨fun h => absurd h (by decide), ?_⟩⟩
  exact (Text.apart_of_not_mem hname).append
    (h.hyphens.append (by decide) (Or.inr (by decide)))
    (Or.inl fun hlast => hname (List.mem_of_getLast? hlast))

/-- A comment around a tag of printable characters. -/
theorem isComment (h : IsTag name behind) (hbehind : ∀ c ∈ behind, Text.isHidden c = false) :
    IsComment (comment name behind) := by
  have hletter : ∀ c : Char, Text.isLetter c = true → Text.isHidden c = false := fun c hc => by
    simp only [Text.isLetter, Bool.or_eq_true, Bool.and_eq_true, decide_eq_true_eq] at hc
    have hrange : 32 ≤ c.toNat ∧ c.toNat < 127 := by
      rcases hc with ⟨hlow, hhigh⟩ | ⟨hlow, hhigh⟩
      · exact ⟨le_trans (by decide) (Char.le_def.1 hlow), lt_of_le_of_lt (Char.le_def.1 hhigh)
          (by decide)⟩
      · exact ⟨le_trans (by decide) (Char.le_def.1 hlow), lt_of_le_of_lt (Char.le_def.1 hhigh)
          (by decide)⟩
    rw [Text.isHidden, if_pos hrange.2, decide_eq_false (by omega)]
  refine ⟨inside name behind ++ [' '], comment_eq_inside name behind, h.apart_inside_hyphens,
    List.getLast?_concat, fun c hc => ?_⟩
  rw [inside_concat, List.mem_cons, List.mem_cons, List.mem_append, List.mem_append] at hc
  rcases hc with rfl | rfl | hc | hc | hc
  · rfl
  · rfl
  · rcases h.name c hc with hl | rfl
    · exact hletter c hl
    · rfl
  · exact hbehind c hc
  · have hend : ∀ c ∈ "> ".toList, Text.isHidden c = false := by decide
    exact hend c hc

end IsTag

/-! ### Equations that can be written -/

/-- A text that can stand in an attribute: printable, without quotation marks, angle brackets and
ampersands, and without two hyphens in a row. -/
structure IsValue (t : Text) : Prop where
  printable : ∀ c ∈ t, Text.isHidden c = false
  free : ∀ c ∈ t, c ∉ "\x22<>&".toList
  hyphens : Text.Apart '-' '-' t

instance (t : Text) : Decidable (IsValue t) :=
  decidable_of_iff ((∀ c ∈ t, Text.isHidden c = false) ∧ (∀ c ∈ t, c ∉ "\x22<>&".toList) ∧
    Text.Apart '-' '-' t) ⟨fun ⟨h, h', h''⟩ => ⟨h, h', h''⟩, fun ⟨h, h', h''⟩ => ⟨h, h', h''⟩⟩

/-- An equation whose attributes can be written into a marker. -/
structure Writable (e : Equation) : Prop where
  label : IsValue e.label
  alt : IsValue e.alt
  raw : IsValue e.raw
  label_ne_nil : e.label ≠ []
  raw_ne_nil : e.raw ≠ []

instance (e : Equation) : Decidable (Writable e) :=
  decidable_of_iff (IsValue e.label ∧ IsValue e.alt ∧ IsValue e.raw ∧ e.label ≠ [] ∧ e.raw ≠ [])
    ⟨fun ⟨h, h', h'', hl, hr⟩ => ⟨h, h', h'', hl, hr⟩,
      fun ⟨h, h', h'', hl, hr⟩ => ⟨h, h', h'', hl, hr⟩⟩

theorem IsValue.quote_not_mem {t : Text} (h : IsValue t) : Text.quote ∉ t := fun hmem =>
  h.free _ hmem (by decide)

/-- A character without a glyph does not stand in an attribute. -/
theorem IsValue.not_mem_of_isHidden {t : Text} (h : IsValue t) {c : Char}
    (hc : Text.isHidden c = true) : c ∉ t := fun hmem => by
  rw [h.printable c hmem] at hc
  cases hc

/-! ### The attributes in a start marker -/

/-- The characters around the values. -/
def frame : Text := " =labertw\x22".toList

theorem mem_field {name : String} {v : Text} (hname : ∀ x ∈ name.toList, x ∈ frame) {c : Char}
    (hc : c ∈ field name v) : c ∈ frame ∨ c ∈ v := by
  simp only [field, List.cons_append, List.mem_cons, List.mem_append, List.not_mem_nil,
    or_false] at hc
  rcases hc with rfl | ((hc | rfl | rfl) | hc) | rfl
  · exact Or.inl (by decide)
  · exact Or.inl (hname c hc)
  · exact Or.inl (by decide)
  · exact Or.inl (by decide)
  · exact Or.inr hc
  · exact Or.inl (by decide)

theorem mem_fields {e : Equation} {c : Char} (hc : c ∈ fields e) :
    c ∈ frame ∨ c ∈ e.label ∨ c ∈ e.alt ∨ c ∈ e.raw := by
  rcases List.mem_append.1 hc with hc | hc
  · rcases List.mem_append.1 hc with hc | hc
    · rcases mem_field (by decide) hc with hc | hc
      · exact Or.inl hc
      · exact Or.inr (Or.inl hc)
    · rcases mem_field (by decide) hc with hc | hc
      · exact Or.inl hc
      · exact Or.inr (Or.inr (Or.inl hc))
  · rcases mem_field (by decide) hc with hc | hc
    · exact Or.inl hc
    · exact Or.inr (Or.inr (Or.inr hc))

theorem getLast?_field (name : String) (v : Text) : (field name v).getLast? = some Text.quote := by
  rw [field, List.getLast?_concat]

theorem getLast?_fields (e : Equation) : (fields e).getLast? = some Text.quote := by
  rw [fields, List.getLast?_append_of_ne_nil _ (by simp [field]), getLast?_field]

theorem apart_field {name : String} {v : Text} {a b : Char} (hname : ∀ x ∈ name.toList, x ∈ frame)
    (ha : a ∉ frame) (hb : b ≠ Text.quote) (hv : Text.Apart a b v) :
    Text.Apart a b (field name v) := by
  have hquote : Text.quote ∈ frame := by decide
  have hopen : a ∉ ' ' :: name.toList ++ ['=', Text.quote] := fun hmem => by
    rcases List.mem_append.1 hmem with hmem | hmem
    · rcases List.mem_cons.1 hmem with rfl | hmem
      · exact ha (by decide)
      · exact ha (hname a hmem)
    · have hend : ∀ x ∈ ['=', Text.quote], x ∈ frame := by decide
      exact ha (hend a hmem)
  have hclose : a ∉ [Text.quote] := fun hmem => ha (List.mem_singleton.1 hmem ▸ hquote)
  refine ((Text.apart_of_not_mem hopen).append hv (Or.inl fun hlast => ?_)).append
    (Text.apart_of_not_mem hclose) (Or.inr fun hhead => ?_)
  · exact hopen (List.mem_of_getLast? hlast)
  · exact hb (Option.some.inj hhead).symm

/-- Two characters that stand next to each other in no value do not in the attributes, if the first
does not stand around the values. -/
theorem apart_fields {e : Equation} {a b : Char} (ha : a ∉ frame) (hb : b ≠ Text.quote)
    (hlabel : Text.Apart a b e.label) (halt : Text.Apart a b e.alt)
    (hraw : Text.Apart a b e.raw) : Text.Apart a b (fields e) := by
  have hlast : ∀ (name : String) (v : Text), (field name v).getLast? ≠ some a :=
    fun name v hlast => by
      rw [getLast?_field] at hlast
      exact ha (Option.some.inj hlast ▸ by decide)
  have hpair : (field "label" e.label ++ field "alt" e.alt).getLast? ≠ some a := by
    rw [List.getLast?_append_of_ne_nil _ (by simp [field])]
    exact hlast _ _
  exact ((apart_field (by decide) ha hb hlabel).append (apart_field (by decide) ha hb halt)
    (Or.inl (hlast _ _))).append (apart_field (by decide) ha hb hraw) (Or.inl hpair)

theorem Writable.not_mem_fields {e : Equation} (he : Writable e) {c : Char} (hframe : c ∉ frame)
    (hvalue : ∀ {t : Text}, IsValue t → c ∉ t) : c ∉ fields e := fun hc => by
  rcases mem_fields hc with hc | hc | hc | hc
  · exact hframe hc
  · exact hvalue he.label hc
  · exact hvalue he.alt hc
  · exact hvalue he.raw hc

/-- The attributes of an equation that can be written may stand behind the name of the tag. -/
theorem Writable.isTag {e : Equation} (he : Writable e) : IsTag "equation".toList (fields e) where
  name := by decide
  head := fun c hc => by
    have hhead : (fields e).head? = some ' ' := rfl
    exact (Option.some.inj (hhead.symm.trans hc)).symm
  angle := he.not_mem_fields (by decide) fun hv hmem => hv.free _ hmem (by decide)
  hyphens := apart_fields (by decide) (by decide) he.label.hyphens he.alt.hyphens he.raw.hyphens

theorem isTag_stop : IsTag "/equation".toList [] where
  name := by decide
  head := fun _ hc => by cases hc
  angle := List.not_mem_nil
  hyphens := Text.apart_of_not_mem List.not_mem_nil

/-- **A written start marker is a comment.** -/
theorem Writable.isComment_start {e : Equation} (he : Writable e) : IsComment (start e) := by
  rw [start_eq_comment]
  refine he.isTag.isComment fun c hc => ?_
  rw [← Bool.not_eq_true]
  intro hhidden
  have hframe : ∀ x ∈ frame, Text.isHidden x = false := by decide
  refine he.not_mem_fields (fun hmem => ?_) (fun hv => hv.not_mem_of_isHidden hhidden) hc
  rw [hframe c hmem] at hhidden
  cases hhidden

theorem isComment_stop : IsComment stop := isTag_stop.isComment fun _ hc => by cases hc

/-! ### Reading attributes -/

/-- What stands behind the first attribute of a name. -/
def behind? (name t : Text) : Option Text :=
  (Text.cutAt? (name ++ ['=', Text.quote]) t).map Prod.snd

theorem scan_eq (name t : Text) : scan name t =
    match behind? name t with
    | none => .error .missing
    | some rest =>
      match Text.cutAt? [Text.quote] rest with
      | none => .error .unterminated
      | some (value, _) => .ok value := by
  unfold scan behind?
  cases Text.cutAt? (name ++ ['=', Text.quote]) t <;> rfl

/-- What an attribute opens with ends at the first quotation mark. -/
theorem after?_quoted {name w : Text} (hname : Text.quote ∉ name) (hw : Text.quote ∉ w) (v : Text) :
    Text.after? (name ++ ['=', Text.quote]) (w ++ Text.quote :: v) =
      if w = name ++ ['='] then some v else none := by
  have hkey : Text.quote ∉ name ++ ['='] := by
    intro hmem
    rcases List.mem_append.1 hmem with hmem | hmem
    · exact hname hmem
    · exact absurd (List.mem_singleton.1 hmem) (by decide)
  have hcut : ∀ t, name ++ ['=', Text.quote] ++ t = (name ++ ['=']) ++ Text.quote :: t := fun t => by
    simp
  split
  · rename_i h
    rw [h, ← hcut, Text.after?_append]
  · rename_i h
    rw [Option.eq_none_iff_forall_ne_some]
    intro r hr
    have hsplit := Text.eq_append_of_after? hr
    rw [hcut] at hsplit
    exact h (Text.append_cons_inj hw hkey hsplit).1

/-- The search for an attribute in front of a quotation mark: it ends there if the name stands
directly in front of the mark, and otherwise it goes on behind it. -/
theorem behind?_quoted {n u : Text} (hname : Text.quote ∉ n) (hu : Text.quote ∉ u)
    (v : Text) : behind? n (u ++ Text.quote :: v) =
      if n ++ ['='] <:+ u then some v else behind? n v := by
  have hmap : ∀ (c : Char) (o : Option (Text × Text)),
      (o.map fun p => (c :: p.1, p.2)).map Prod.snd = o.map Prod.snd := fun c o => by
    cases o <;> rfl
  unfold behind?
  induction u with
  | nil =>
    have hafter := after?_quoted hname hu v
    rw [if_neg (by simp)] at hafter
    rw [List.nil_append] at hafter ⊢
    rw [Text.cutAt?, hafter, if_neg (by simp)]
    exact hmap _ _
  | cons c u ih =>
    have hafter := after?_quoted hname hu v
    rw [List.cons_append] at hafter ⊢
    rw [Text.cutAt?, hafter]
    by_cases hc : c :: u = n ++ ['=']
    · rw [if_pos hc, if_pos (hc ▸ List.suffix_refl _)]
      rfl
    · rw [if_neg hc]
      show Option.map Prod.snd (Option.map _ _) = _
      rw [hmap, ih (List.not_mem_of_not_mem_cons hu)]
      have hsuffix : n ++ ['='] <:+ c :: u ↔ n ++ ['='] <:+ u := by
        rw [List.suffix_cons_iff]
        exact or_iff_right fun h => hc h.symm
      simp only [hsuffix]

/-- The value behind the opening of an attribute. -/
theorem scan_of_behind? {name t value rest : Text} (h : behind? name t = some (value ++ Text.quote :: rest))
    (hvalue : Text.quote ∉ value) : scan name t = .ok value := by
  rw [scan_eq, h]
  simp only [Text.cutAt?_singleton hvalue]

theorem value_eq_ok_iff {name t v : Text} : value name t = .ok v ↔ scan name t = .ok v := by
  unfold value
  cases scan name t <;> simp [Except.mapError]

theorem required_eq_ok_iff {name t v : Text} :
    required name t = .ok v ↔ scan name t = .ok v ∧ v ≠ [] := by
  rw [← value_eq_ok_iff]
  unfold required
  split
  · rename_i h
    rw [h]
    constructor
    · exact fun h => by cases h
    · rintro ⟨h, hne⟩
      exact absurd (Except.ok.inj h).symm hne
  · rename_i hne
    exact ⟨fun h => ⟨h, fun hv => hne (hv ▸ h)⟩, And.left⟩

/-- When the attributes can be read: all three are there, and the label and the expression are not
empty. -/
theorem attributes_eq_ok_iff {t : Text} {e : Equation} : attributes t = .ok e ↔
    (scan "label".toList t = .ok e.label ∧ e.label ≠ []) ∧ scan "alt".toList t = .ok e.alt ∧
      scan "raw".toList t = .ok e.raw ∧ e.raw ≠ [] := by
  rw [← required_eq_ok_iff, ← value_eq_ok_iff, ← required_eq_ok_iff]
  unfold attributes
  constructor
  · intro h
    rcases hl : required "label".toList t with f | label
    · rw [hl] at h
      cases h
    · rcases ha : value "alt".toList t with f | alt
      · rw [hl, ha] at h
        cases h
      · rcases hr : required "raw".toList t with f | raw
        · rw [hl, ha, hr] at h
          cases h
        · rw [hl, ha, hr] at h
          cases h
          exact ⟨rfl, rfl, rfl⟩
  · rintro ⟨hl, ha, hr⟩
    rw [hl, ha, hr]
    rfl

/-- A written start marker behind its first quotation mark. -/
def values (e : Equation) : Text :=
  e.label ++ Text.quote :: (" alt=".toList ++ Text.quote :: (e.alt ++ Text.quote ::
    (" raw=".toList ++ Text.quote :: (e.raw ++ Text.quote :: "> -->".toList))))

/-- The written start marker, cut at its quotation marks. -/
theorem start_eq_quoted (e : Equation) :
    start e = "<!-- <equation label=".toList ++ Text.quote :: values e := by
  have hopener : "<!-- <equation label=".toList = opener ++ ' ' :: "label".toList ++ ['='] := rfl
  have halt : " alt=".toList = ' ' :: "alt".toList ++ ['='] := rfl
  have hraw : " raw=".toList = ' ' :: "raw".toList ++ ['='] := rfl
  have hcloser : closer = "> -->".toList := rfl
  rw [values, hopener, halt, hraw, ← hcloser]
  unfold start field
  simp only [List.append_assoc, List.cons_append, List.nil_append]

theorem behind?_start (e : Equation) {n : Text} (hname : Text.quote ∉ n) : behind? n (start e) =
    if n ++ ['='] <:+ "<!-- <equation label=".toList then some (values e)
    else behind? n (values e) := by
  rw [start_eq_quoted, behind?_quoted hname (by decide)]

/-- **A written start marker can be read.** Its label is read as it was written; the end of a value
may be taken for the name of an attribute that stands behind it. -/
theorem exists_attributes_start {e : Equation} (he : Writable e) :
    ∃ alt raw, attributes (start e) = .ok ⟨e.label, alt, raw⟩ := by
  have hsecond : Text.quote ∉ " alt=".toList := by decide
  have hthird : Text.quote ∉ " raw=".toList := by decide
  have hlabel : scan "label".toList (start e) = .ok e.label := by
    have hbehind := behind?_start e (n := "label".toList) (by decide)
    rw [if_pos (by decide)] at hbehind
    exact scan_of_behind? hbehind he.label.quote_not_mem
  have halt : ∃ alt, scan "alt".toList (start e) = .ok alt := by
    have hbehind := behind?_start e (n := "alt".toList) (by decide)
    rw [if_neg (by decide), values, behind?_quoted (by decide) he.label.quote_not_mem] at hbehind
    split at hbehind
    · exact ⟨_, scan_of_behind? hbehind hsecond⟩
    · rw [behind?_quoted (by decide) hsecond, if_pos (by decide)] at hbehind
      exact ⟨_, scan_of_behind? hbehind he.alt.quote_not_mem⟩
  have hraw : ∃ raw, raw ≠ [] ∧ scan "raw".toList (start e) = .ok raw := by
    have hbehind := behind?_start e (n := "raw".toList) (by decide)
    rw [if_neg (by decide), values, behind?_quoted (by decide) he.label.quote_not_mem] at hbehind
    split at hbehind
    · exact ⟨_, by decide, scan_of_behind? hbehind hsecond⟩
    · rw [behind?_quoted (by decide) hsecond, if_neg (by decide),
        behind?_quoted (by decide) he.alt.quote_not_mem] at hbehind
      split at hbehind
      · exact ⟨_, by decide, scan_of_behind? hbehind hthird⟩
      · rw [behind?_quoted (by decide) hthird, if_pos (by decide)] at hbehind
        exact ⟨_, he.raw_ne_nil, scan_of_behind? hbehind he.raw.quote_not_mem⟩
  obtain ⟨alt, halt⟩ := halt
  obtain ⟨raw, hne, hraw⟩ := hraw
  exact ⟨alt, raw, attributes_eq_ok_iff.2 ⟨⟨hlabel, he.label_ne_nil⟩, halt, hraw, hne⟩⟩

theorem scan_append {name t v : Text} (h : scan name t = .ok v) (u : Text) :
    scan name (t ++ u) = .ok v := by
  unfold scan at h ⊢
  split at h
  · cases h
  · rename_i a rest hcut
    split at h
    · cases h
    · rename_i value b hvalue
      rw [Text.cutAt?_append hcut]
      simp only [Text.cutAt?_append hvalue]
      exact h

/-- What follows a start marker does not change its attributes. -/
theorem attributes_append {t : Text} {e : Equation} (h : attributes t = .ok e) (u : Text) :
    attributes (t ++ u) = .ok e := by
  obtain ⟨⟨hlabel, hl⟩, halt, hraw, hr⟩ := attributes_eq_ok_iff.1 h
  exact attributes_eq_ok_iff.2
    ⟨⟨scan_append hlabel u, hl⟩, scan_append halt u, scan_append hraw u, hr⟩

/-- The opening of a start marker and its closing on the same line, whatever follows. -/
theorem startsHere_of_line {u : Text} (hu : '\n' ∉ u) (v : Text) :
    startsHere (opener ++ (u ++ (closer ++ v))) = true := by
  have hline : ∀ c ∈ u, (c != '\n') = true := fun c hc => bne_iff_ne.2 fun hn => hu (hn ▸ hc)
  have htake : (u ++ (closer ++ v)).takeWhile (· != '\n') =
      u ++ (closer ++ v.takeWhile (· != '\n')) := by
    rw [List.takeWhile_append_of_pos hline, List.takeWhile_append_of_pos (by decide)]
  rw [startsHere, Text.after?_append]
  simp only [htake, Text.occurs_append]

theorem isStart_of_line {u : Text} (hu : '\n' ∉ u) (v : Text) :
    isStart (opener ++ (u ++ (closer ++ v))) = true := by
  show (startsHere _ || isStart _) = true
  rw [Bool.or_eq_true]
  exact Or.inl (startsHere_of_line hu v)

/-- **A written start marker is one**, whatever follows it. -/
theorem isStart_start {e : Equation} (he : Writable e) (u : Text) : isStart (start e ++ u) = true := by
  have hsplit : start e ++ u = opener ++ (fields e ++ (closer ++ u)) := by
    unfold start fields
    simp only [List.append_assoc]
  rw [hsplit]
  exact isStart_of_line
    (he.not_mem_fields (by decide) fun hv => hv.not_mem_of_isHidden (by decide)) u

end MathPage.Marker
