import MathPage.Proofs.Equation.Attributes

/-!
# Markers with any attributes

A start marker may hold other attributes beside those of an equation, in any order. The search for
an attribute knows nothing of where an attribute begins: it stops at the first name that ends in the
name it looks for, and also at the first value that ends in this name and an equals sign, since a
quotation mark follows either.

* `Attribute` – an attribute that can be written; `tag` – the start marker of several of them;
* `found` – where the search stops, and what it takes for the value there;
* `Leads` – the attribute of a name comes before anything else at which the search would stop.

The search is exactly `found` (`scan_tag`); an equation is read back if its three attributes lead
(`reading_tag`).
-/

namespace MathPage.Marker

/-- An attribute that can be written into a marker: it holds no quotation mark. -/
structure Attribute where
  name : Text
  value : Text
  name_free : Text.quote ∉ name
  value_free : Text.quote ∉ value

/-- An attribute as it is written, with a space in front. -/
def Attribute.written (a : Attribute) : Text :=
  ' ' :: a.name ++ ['=', Text.quote] ++ a.value ++ [Text.quote]

/-- The attributes of a marker and its closing. -/
def ending (as : List Attribute) : Text := as.flatMap Attribute.written ++ closer

/-- The start marker with some attributes. -/
def tag (as : List Attribute) : Text := opener ++ ending as

/-- The opening of the first of some attributes, up to its quotation mark. -/
def opening : List Attribute → Except AttributeFault Text
  | [] => .error .unterminated
  | a :: _ => .ok (' ' :: a.name ++ ['='])

/-- Where the search for a name stops in a list of attributes: a name gives the value behind it, and
a value the opening of the next attribute. -/
def found (name : Text) : List Attribute → Except AttributeFault Text
  | [] => .error .missing
  | a :: as =>
    if name <:+ a.name then .ok a.value
    else if name ++ ['='] <:+ a.value then opening as
    else found name as

/-- An attribute with this name and this value comes before any other place at which the search for
the name would stop. -/
def Leads (name value : Text) (as : List Attribute) : Prop :=
  ∃ before a behind, as = before ++ a :: behind ∧ a.name = name ∧ a.value = value ∧
    ∀ b ∈ before, ¬ name <:+ b.name ∧ ¬ name ++ ['='] <:+ b.value

/-! ### The written form -/

/-- The attributes cut at the quotation marks of the first one. -/
theorem ending_cons (a : Attribute) (as : List Attribute) : ending (a :: as) =
    (' ' :: a.name ++ ['=']) ++ Text.quote :: (a.value ++ Text.quote :: ending as) := by
  simp [ending, Attribute.written]

theorem Attribute.opening_free (a : Attribute) : Text.quote ∉ ' ' :: a.name ++ ['='] := by
  intro hmem
  rcases List.mem_append.1 hmem with hmem | hmem
  · exact a.name_free (List.mem_of_ne_of_mem (by decide) hmem)
  · exact absurd hmem (by decide)

/-- The start marker of an equation holds its three attributes. -/
theorem start_eq_tag {e : Equation} (hlabel : Text.quote ∉ e.label) (halt : Text.quote ∉ e.alt)
    (hraw : Text.quote ∉ e.raw) :
    start e = tag [⟨"label".toList, e.label, by decide, hlabel⟩,
      ⟨"alt".toList, e.alt, by decide, halt⟩, ⟨"raw".toList, e.raw, by decide, hraw⟩] := by
  simp [start, tag, ending, field, Attribute.written]

/-! ### The search -/

/-- What stands behind a character that an ending does not hold has this ending if the whole has. -/
theorem suffix_append_cons_iff {c : Char} {p : Text} (hp : c ∉ p) (a b : Text) :
    p <:+ a ++ c :: b ↔ p <:+ b := by
  constructor
  · intro h
    rcases List.suffix_or_suffix_of_suffix h (List.suffix_append a (c :: b)) with hshort | hlong
    · rcases List.suffix_cons_iff.1 hshort with rfl | hb
      · exact absurd List.mem_cons_self hp
      · exact hb
    · exact absurd (hlong.subset List.mem_cons_self) hp
  · intro h
    exact h.trans ((List.suffix_cons c b).trans (List.suffix_append a _))

/-- In front of the equals sign of an attribute the search looks at its name only. -/
theorem key_suffix_iff {name : Text} (hspace : ' ' ∉ name) (lead k : Text) :
    name ++ ['='] <:+ lead ++ (' ' :: k ++ ['=']) ↔ name <:+ k := by
  rw [← suffix_append_cons_iff hspace lead k]
  constructor
  · rintro ⟨front, h⟩
    have hboth : (front ++ name) ++ ['='] = (lead ++ ' ' :: k) ++ ['='] := by
      rw [List.append_assoc, h]
      simp
    exact ⟨front, List.append_cancel_right hboth⟩
  · rintro ⟨front, h⟩
    exact ⟨front, by rw [← List.append_assoc, h]; simp⟩

theorem scan_eq_missing {name t : Text} (ht : Text.quote ∉ t) : scan name t = .error .missing := by
  refine scan_eq_missing_iff.2 fun hkey => ht (hkey.subset ?_)
  simp [key]

/-- Behind a value that ends like an opening the search takes the opening of the next attribute for
the value. -/
theorem scan_of_behind?_ending {name t : Text} {as : List Attribute}
    (hbehind : behind? name t = some (ending as)) : scan name t = opening as := by
  cases as with
  | nil =>
    have hopen : Text.quote ∉ ending [] := by decide
    rw [scan_eq, hbehind]
    simp only [Text.cutAt?_singleton_eq_none_iff.2 hopen, opening]
  | cons b as =>
    rw [ending_cons] at hbehind
    exact scan_of_behind? hbehind b.opening_free

/-- **The search for an attribute.** It stops where `found` says, whatever text without quotation
marks stands in front. -/
theorem scan_append_ending {name lead : Text} (hname : Text.quote ∉ name) (hspace : ' ' ∉ name)
    (hlead : Text.quote ∉ lead) (as : List Attribute) :
    scan name (lead ++ ending as) = found name as := by
  induction as generalizing lead with
  | nil =>
    rw [found]
    refine scan_eq_missing fun hmem => ?_
    rcases List.mem_append.1 hmem with hmem | hmem
    · exact hlead hmem
    · exact absurd hmem (by decide)
  | cons a as ih =>
    have hopen : Text.quote ∉ lead ++ (' ' :: a.name ++ ['=']) := fun hmem =>
      (List.mem_append.1 hmem).elim hlead a.opening_free
    have hbehind := behind?_quoted hname hopen (a.value ++ Text.quote :: ending as)
    rw [List.append_assoc, ← ending_cons, behind?_quoted hname a.value_free] at hbehind
    simp only [key_suffix_iff hspace] at hbehind
    rw [found]
    by_cases hkey : name <:+ a.name
    · rw [if_pos hkey] at hbehind ⊢
      exact scan_of_behind? hbehind a.value_free
    rw [if_neg hkey] at hbehind ⊢
    by_cases hvalue : name ++ ['='] <:+ a.value
    · rw [if_pos hvalue] at hbehind ⊢
      exact scan_of_behind?_ending hbehind
    · -- nothing stops the search, which goes on as if the attributes began here
      rw [if_neg hvalue] at hbehind ⊢
      rw [scan_eq, hbehind, ← scan_eq]
      exact @ih [] List.not_mem_nil

theorem scan_tag {name : Text} (hname : Text.quote ∉ name) (hspace : ' ' ∉ name)
    (as : List Attribute) : scan name (tag as) = found name as :=
  scan_append_ending hname hspace (by decide) as

/-! ### Attributes that lead -/

theorem Leads.found_eq {name value : Text} {as : List Attribute} (h : Leads name value as) :
    found name as = .ok value := by
  obtain ⟨before, a, behind, rfl, rfl, rfl, hbefore⟩ := h
  induction before with
  | nil => exact if_pos (List.suffix_refl _)
  | cons b before ih =>
    obtain ⟨hname, hvalue⟩ := hbefore b List.mem_cons_self
    rw [List.cons_append, found, if_neg hname, if_neg hvalue]
    exact ih fun b hb => hbefore b (List.mem_cons_of_mem _ hb)

/-- An equation whose attributes lead is read back. -/
theorem attributes_tag {e : Equation} {as : List Attribute} (hlabel_ne : e.label ≠ [])
    (hraw_ne : e.raw ≠ []) (hlabel : Leads "label".toList e.label as)
    (halt : Leads "alt".toList e.alt as) (hraw : Leads "raw".toList e.raw as) :
    attributes (tag as) = .ok e := by
  have hscan : ∀ {name value : Text}, Text.quote ∉ name → ' ' ∉ name → Leads name value as →
      scan name (tag as) = .ok value := fun hname hspace hleads => by
    rw [scan_tag hname hspace, hleads.found_eq]
  exact attributes_eq_ok_iff.2 ⟨⟨hscan (by decide) (by decide) hlabel, hlabel_ne⟩,
    hscan (by decide) (by decide) halt, hscan (by decide) (by decide) hraw, hraw_ne⟩

/-! ### Markers on one line -/

theorem isStart_tag {as : List Attribute} (has : ∀ a ∈ as, '\n' ∉ a.name ∧ '\n' ∉ a.value) :
    isStart (tag as) = true := by
  have hline : '\n' ∉ as.flatMap Attribute.written := fun hmem => by
    obtain ⟨a, ha, hmem⟩ := List.mem_flatMap.1 hmem
    simp [Attribute.written, has a ha, Text.quote] at hmem
  have hstart := isStart_of_line hline []
  rwa [List.append_nil] at hstart

/-! ### Reading what was written -/

/-- **Reading undoes writing.** In a marker with any attributes the search for a name gives what
`found` says. An equation of which all three attributes lead is read back, with other attributes
around them in any order, and a logger that takes every message does not change this. A marker
without line feeds is a start marker. -/
theorem reading_tag (as : List Attribute) :
    (∀ name : Text, Text.quote ∉ name → ' ' ∉ name → scan name (tag as) = found name as) ∧
    (∀ e : Equation, e.label ≠ [] → e.raw ≠ [] → Leads "label".toList e.label as →
      Leads "alt".toList e.alt as → Leads "raw".toList e.raw as →
        attributes (tag as) = .ok e ∧
          ∀ (ω : Type) (h : Host ω) (w : ω), h.NeverRefuses → (read h (tag as) w).1 = .ok e) ∧
    ((∀ a ∈ as, '\n' ∉ a.name ∧ '\n' ∉ a.value) →
      isStart (tag as) = true ∧ isEnd (tag as) = false) := by
  refine ⟨fun name hname hspace => scan_tag hname hspace as,
    fun e hlabel_ne hraw_ne hlabel halt hraw => ?_, fun has => ?_⟩
  · have hread := attributes_tag hlabel_ne hraw_ne hlabel halt hraw
    refine ⟨hread, fun ω h w hq => ?_⟩
    obtain ⟨v, hv⟩ := exists_read_eq_ok hq hread w
    rw [hv]
  · have hstart := isStart_tag has
    refine ⟨hstart, Bool.eq_false_iff.2 fun hend => ?_⟩
    rw [not_isStart_of_isEnd hend] at hstart
    cases hstart

/-- An equation behind another attribute, its own attributes in another order. -/
def shuffledSample : List Attribute :=
  [⟨"class".toList, "raw x".toList, by decide, by decide⟩,
    ⟨"raw".toList, "x = y".toList, by decide, by decide⟩,
    ⟨"alt".toList, [], by decide, by decide⟩,
    ⟨"label".toList, "alt=".toList, by decide, by decide⟩]

/-- A name and two values that end like an opening, in front of the attributes they are taken for. -/
def collidingSample : List Attribute :=
  [⟨"data-raw".toList, "label=".toList, by decide, by decide⟩,
    ⟨"raw".toList, "x".toList, by decide, by decide⟩,
    ⟨"label".toList, "alt=".toList, by decide, by decide⟩]

theorem reading_tag_samples :
    attributes (tag shuffledSample) = .ok ⟨"alt=".toList, [], "x = y".toList⟩ ∧
      isStart (tag shuffledSample) = true ∧
      scan "raw".toList (tag collidingSample) = .ok "label=".toList ∧
      scan "label".toList (tag collidingSample) = .ok " raw=".toList ∧
      scan "alt".toList (tag collidingSample) = .error .unterminated := by
  obtain ⟨-, hread, hstart⟩ := reading_tag shuffledSample
  obtain ⟨hscan, -, -⟩ := reading_tag collidingSample
  have hlabel : Leads "label".toList "alt=".toList shuffledSample :=
    ⟨shuffledSample.take 3, _, [], rfl, rfl, rfl, by decide⟩
  have halt : Leads "alt".toList [] shuffledSample :=
    ⟨shuffledSample.take 2, _, shuffledSample.drop 3, rfl, rfl, rfl, by decide⟩
  have hraw : Leads "raw".toList "x = y".toList shuffledSample :=
    ⟨shuffledSample.take 1, _, shuffledSample.drop 2, rfl, rfl, rfl, by decide⟩
  refine ⟨(hread ⟨_, _, _⟩ (by decide) (by decide) hlabel halt hraw).1, (hstart (by decide)).1,
    ?_, ?_, ?_⟩
  · exact (hscan _ (by decide) (by decide)).trans (by decide)
  · exact (hscan _ (by decide) (by decide)).trans (by decide)
  · exact (hscan _ (by decide) (by decide)).trans (by decide)

end MathPage.Marker
