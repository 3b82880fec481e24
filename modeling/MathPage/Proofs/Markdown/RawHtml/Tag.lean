import MathPage.Markdown.RawHtml.Token
import MathPage.Proofs.Text.Basic
import MathPage.Proofs.Text.Greedy

/-!
# Tags in raw HTML

* `Field`, `Tag` – an attribute with a quoted value, and a tag with such attributes;
* `takes_attr`, `takes_attrs` – what the pattern of an attribute takes of them;
* `Tag.token_opened`, `Tag.token_single`, `Tag.token_closed` – each form of a tag is one token.
-/

namespace MathPage.Markdown.RawHtml

/-- Whether a character may stand in the name of a tag or an attribute. -/
def isPlain (c : Char) : Bool := !Text.isBlank c && !"\x00/=>,\x60\x27\x22".toList.contains c

/-- An attribute, whose value stands between quotation marks. -/
structure Field where
  name : Text
  value : Text
  name_ne_nil : name ≠ []
  plain : ∀ c ∈ name, isPlain c = true
  quote_not_mem : Text.quote ∉ value

/-- The name of a tag and its attributes. -/
structure Tag where
  name : Text
  fields : List Field := []
  letter : name.head?.any Text.isLetter = true
  plain : ∀ c ∈ name, isPlain c = true

/-- What closes a tag that is an element of its own. -/
def selfClosings : List Text := ["/>".toList, " />".toList]

/-- An attribute as it is written. -/
def Field.written (f : Field) : Text := f.name ++ '=' :: Text.quote :: f.value ++ [Text.quote]

namespace Tag

/-- The attributes, each behind a space. -/
def attributes (fs : List Field) : Text := fs.flatMap fun f => ' ' :: f.written

/-- A tag up to its closing bracket. -/
def head (t : Tag) : Text := '<' :: t.name ++ attributes t.fields

/-- A start tag. -/
def opened (t : Tag) : Text := t.head ++ ['>']

/-- An end tag. -/
def closed (t : Tag) : Text := "</".toList ++ t.name ++ ['>']

/-- The name in small letters. -/
def key (t : Tag) : Text := Text.lower t.name

end Tag

open Pattern

/-! ### Characters of names -/

theorem isPlain_iff {c : Char} : isPlain c = true ↔
    Text.isBlank c = false ∧ c ∉ "\x00/=>,\x60\x27\x22".toList := by
  simp only [isPlain, Bool.and_eq_true, Bool.not_eq_true', List.contains_eq_mem,
    decide_eq_false_iff_not]

theorem ne_of_isPlain {c d : Char} (hc : isPlain c = true) (hd : isPlain d = false) : c ≠ d := by
  rintro rfl
  rw [hc] at hd
  cases hd

theorem endsName_of_isPlain {c : Char} (hc : isPlain c = true) : endsName c = false := by
  have hends : ∀ d ∈ "\t\n\r\x0c />\x00".toList, isPlain d = false := by decide
  rw [endsName, List.contains_eq_mem, decide_eq_false_iff_not]
  exact fun hmem => ne_of_isPlain hc (hends c hmem) rfl

/-- What may stand behind an attribute and the blanks that follow it: another attribute, or the
closing bracket of the tag with or without a slash. -/
structure Resumes (v : Text) : Prop where
  blank : ∀ c ∈ v.head?, Text.isBlank c = false
  comma : v.head? ≠ some ','
  slash : ∀ t, v = '/' :: t → t.head? = some '>'

theorem resumes_plain {c : Char} (hc : isPlain c = true) (t : Text) : Resumes (c :: t) where
  blank := fun d hd => Option.some.inj hd ▸ (isPlain_iff.1 hc).1
  comma := fun hcomma => ne_of_isPlain hc (by decide) (Option.some.inj hcomma)
  slash := fun _ h => absurd (List.cons.inj h).1 (ne_of_isPlain hc (by decide))

/-- The closing bracket of a tag, perhaps behind a slash. -/
def Ends (v : Text) : Prop := ∃ t, v = '>' :: t ∨ v = '/' :: '>' :: t

theorem Ends.resumes {v : Text} (h : Ends v) : Resumes v := by
  obtain ⟨t, rfl | rfl⟩ := h
  · exact ⟨fun c hc => Option.some.inj hc ▸ by decide, by simp, fun _ h => by simp at h⟩
  · refine ⟨fun c hc => Option.some.inj hc ▸ by decide, by simp, fun u h => ?_⟩
    obtain rfl := (List.cons.inj h).2
    rfl

/-! ### One attribute -/

theorem stays_filler {v : Text} (hv : Resumes v) : Stays filler v := by
  refine (stays_of_not_leaves fun t ht => ?_).star
  rcases ht with ht | ⟨u, ⟨c, rfl, hc⟩, hnext, rfl⟩
  · exact not_leaves_one hv.blank t ht
  · obtain rfl := eq_of_beq hc
    rw [hv.slash t rfl] at hnext
    cases hnext

theorem takes_filler {b v : Text} (hb : ∀ c ∈ b, Text.isBlank c = true) (hv : Resumes v) (a : Text) :
    Takes filler a b v :=
  (chain_chars (fun c hc a v => (takes_one (hb c hc) a v).alt_left _) a v).star
    fun t ht => stays_filler hv t ⟨1, Nat.zero_le 1, .more ht (.done t)⟩

/-- Behind blanks no comma follows. -/
theorem stays_comma {b v : Text} (hb : ∀ c ∈ b, Text.isBlank c = true) (hv : Resumes v) :
    Stays (.seq (star blank) (char ',')) (b ++ v) := by
  refine stays_of_not_leaves fun t ht => ?_
  obtain ⟨u, ⟨n, -, hrounds⟩, c, rfl, hc⟩ := ht
  obtain ⟨w, hsplit, -, hw⟩ := hrounds.of_one
  obtain rfl := eq_of_beq hc
  have hcomma : (w ++ ',' :: t).dropWhile Text.isBlank = ',' :: t := by
    rw [List.dropWhile_append_of_pos hw]
    rfl
  have hrest : (b ++ v).dropWhile Text.isBlank = v := by
    rw [List.dropWhile_append_of_pos hb]
    rcases v with _ | ⟨c, v⟩
    · rfl
    · exact List.dropWhile_cons_of_neg (by rw [hv.blank c rfl]; decide)
  rw [← hsplit, hrest] at hcomma
  exact hv.comma (by rw [hcomma]; rfl)

/-- **An attribute and the blanks behind it.** -/
theorem takes_attr {barred behind : Pattern} {a b v : Text} (f : Field)
    (hbarred : ∀ c a t, isPlain c = true → Takes (.ahead false barred) a [] (c :: t))
    (hbehind : ∀ a, Takes behind a [] (b ++ v)) (ha : a.getLast? = some ' ')
    (hb : ∀ c ∈ b, Text.isBlank c = true) (hv : Resumes v) :
    Takes (attr barred behind) a (f.written ++ b) v := by
  obtain ⟨c, cs, hname⟩ := List.exists_cons_of_ne_nil f.name_ne_nil
  have hplain := hname ▸ f.plain
  have hc := hplain c List.mem_cons_self
  have hcs : ∀ d ∈ cs, (!Text.isBlank d && !"/=>".toList.contains d) = true := fun d hd => by
    have hmem : ∀ x ∈ "/=>".toList, isPlain x = false := by decide
    have hd' := hplain d (List.mem_cons_of_mem c hd)
    simp only [(isPlain_iff.1 hd').1, Bool.not_false, Bool.true_and, Bool.not_eq_true',
      List.contains_eq_mem, decide_eq_false_iff_not]
    exact fun h => ne_of_isPlain hd' (hmem d h) rfl
  have hvalue : ∀ d ∈ f.value, (d != Text.quote) = true := fun d hd =>
    bne_iff_ne.2 fun h => f.quote_not_mem (h ▸ hd)
  have hfirst : (!Text.isBlank c && c != '/' && c != '>') = true := by
    simp only [(isPlain_iff.1 hc).1, Bool.not_false, Bool.true_and, Bool.and_eq_true, bne_iff_ne]
    exact ⟨ne_of_isPlain hc (by decide), ne_of_isPlain hc (by decide)⟩
  have hsplit : f.written ++ b = [] ++ (([] ++ [c]) ++ (cs ++ (([] ++ (['='] ++ ([] ++
      (([Text.quote] ++ (f.value ++ [Text.quote])) ++ [])))) ++ b))) := by
    simp [Field.written, hname]
  rw [hsplit]
  refine Takes.seq (takes_previous (by rw [ha]; decide) _) (Takes.seq
    (Takes.seq (hbarred c _ _ hc) (takes_one hfirst _ _)) (Takes.seq
    (takes_star_one hcs (by simp) _) (Takes.seq (Takes.opt ?_ (by simp)) (takes_filler hb hv _))))
  -- the value behind the equals sign
  refine Takes.seq (takes_star_nil (stays_one (by simp; decide)) _) (Takes.seq
    (((takes_char '=' _ _).chain (by simp)).takes le_rfl (fun _ h => by cases h)
      (Or.inl (stays_one (by simp [Text.quote])))) (Takes.seq
    (takes_star_nil (stays_one (by simp; decide)) _) (Takes.seq
      (takes_alt_right ?_ (Takes.alt_left ?_ _)) (hbehind _))))
  · rintro t ⟨u, ⟨x, hx, hmark⟩, -⟩
    obtain rfl := eq_of_beq hmark
    simp [Text.quote] at hx
  · exact (takes_char _ _ _).seq ((takes_star_one hvalue (by simp) _).seq (takes_char _ _ _))

/-! ### All attributes -/

/-- The attributes with single spaces between them and blanks behind the last. -/
def spaced (b : Text) : List Field → Text
  | [] => []
  | [f] => f.written ++ b
  | f :: g :: fs => f.written ++ ' ' :: spaced b (g :: fs)

theorem attributes_append (b : Text) (f : Field) (fs : List Field) :
    Tag.attributes (f :: fs) ++ b = ' ' :: spaced b (f :: fs) := by
  induction fs generalizing f with
  | nil => simp [Tag.attributes, spaced]
  | cons g fs ih =>
    have hcons : Tag.attributes (f :: g :: fs) = ' ' :: f.written ++ Tag.attributes (g :: fs) := rfl
    rw [hcons, List.append_assoc, ih, spaced]
    rfl

theorem exists_spaced_cons (b : Text) (f : Field) (fs : List Field) :
    ∃ c t, isPlain c = true ∧ spaced b (f :: fs) = c :: t := by
  obtain ⟨c, cs, hname⟩ := List.exists_cons_of_ne_nil f.name_ne_nil
  refine ⟨c, ?_⟩
  rcases fs with _ | ⟨g, fs⟩
  · exact ⟨_, f.plain c (by simp [hname]), by simp only [spaced, Field.written, hname]; rfl⟩
  · exact ⟨_, f.plain c (by simp [hname]), by simp only [spaced, Field.written, hname]; rfl⟩

theorem stays_attr {barred behind : Pattern} {v : Text} (hv : Ends v) :
    Stays (attr barred behind) v := by
  refine stays_of_not_leaves fun t ht => ?_
  obtain ⟨u, rfl, w, ⟨x, ⟨-, rfl⟩, c, hc, hfirst⟩, -⟩ := ht
  obtain ⟨r, rfl | rfl⟩ := hv
  · obtain rfl := (List.cons.inj hc).1
    exact absurd hfirst (by decide)
  · obtain rfl := (List.cons.inj hc).1
    exact absurd hfirst (by decide)

/-- **All attributes of a tag.** -/
theorem takes_attrs {barred behind : Pattern} {a b v : Text} (fs : List Field)
    (hbarred : ∀ c a t, isPlain c = true → Takes (.ahead false barred) a [] (c :: t))
    (hbehind : ∀ a b v, (∀ c ∈ b, Text.isBlank c = true) → Resumes v → Takes behind a [] (b ++ v))
    (ha : a.getLast? = some ' ') (hb : ∀ c ∈ b, Text.isBlank c = true) (hv : Ends v) :
    Takes (star (attr barred behind)) a (spaced b fs) v := by
  have hchain : Chain (attr barred behind) fs.length a (spaced b fs) v := by
    have hne : ∀ (f : Field) (t : Text), f.written ++ t ≠ [] := fun f t => by simp [Field.written]
    induction fs generalizing a with
    | nil => exact .done a v
    | cons f fs ih =>
      rcases fs with _ | ⟨g, fs⟩
      · exact (takes_attr f hbarred (hbehind · b v hb hv.resumes) ha hb hv.resumes).chain (hne f b)
      · obtain ⟨c, t, hc, ht⟩ := exists_spaced_cons b g fs
        have hspace : ∀ c ∈ [' '], Text.isBlank c = true := by decide
        have hresumes : Resumes (spaced b (g :: fs) ++ v) := ht ▸ resumes_plain hc _
        have hfirst := takes_attr f hbarred (hbehind · [' '] _ hspace hresumes) ha hspace hresumes
        have hlast : (a ++ (f.written ++ [' '])).getLast? = some ' ' := by simp
        have hall := Chain.more (hne f [' ']) hfirst (ih hlast)
        rwa [List.append_assoc] at hall
  exact hchain.star (stays_attr hv)

/-! ### Start tags -/

namespace Tag

variable (t : Tag)

theorem exists_name : ∃ c cs, t.name = c :: cs ∧ Text.isLetter c = true := by
  obtain ⟨name, fields, letter, plain⟩ := t
  rcases name with _ | ⟨c, cs⟩
  · cases letter
  · exact ⟨c, cs, rfl, letter⟩

theorem inner_name {c : Char} {cs : Text} (hname : t.name = c :: cs) : ∀ x ∈ cs,
    (x != Text.tick && !endsName x) = true ∧ (!endsName x) = true := fun x hx => by
  have hplain := t.plain x (by rw [hname]; exact List.mem_cons_of_mem c hx)
  simp only [endsName_of_isPlain hplain, Bool.not_false, Bool.and_true, bne_iff_ne, and_true]
  exact ne_of_isPlain hplain (by decide)

variable {t} {b s v r : Text}

theorem head_of_nil (h : t.fields = []) : t.head = '<' :: t.name := by
  rw [head, h]
  exact List.append_nil _

/-- The pattern of a start tag in front of a tag with attributes. -/
theorem takes_startTag (hfields : t.fields ≠ []) (hb : ∀ c ∈ b, Text.isBlank c = true)
    (hv : Ends v) : Takes startTag [] (t.head ++ b) v := by
  obtain ⟨c, cs, hname, hletter⟩ := t.exists_name
  obtain ⟨f, fs, hfs⟩ := List.exists_cons_of_ne_nil hfields
  obtain ⟨d, u, hd, hspaced⟩ := exists_spaced_cons b f fs
  have hcs := t.inner_name hname
  have hsplit : t.head ++ b = ['<'] ++ ([c] ++ (cs ++ (([' '] ++ spaced b (f :: fs)) ++ []))) := by
    rw [Tag.head, hname, hfs, List.append_assoc, attributes_append]
    simp
  have hblank : Stays (.alt blank (char '/')) (spaced b (f :: fs) ++ ([] ++ v)) := by
    rw [hspaced]
    refine (stays_one fun x hx => ?_).alt (stays_one fun x hx => ?_)
    · exact Option.some.inj hx ▸ (isPlain_iff.1 hd).1
    · exact Option.some.inj hx ▸ beq_false_of_ne (ne_of_isPlain hd (by decide))
  rw [hsplit]
  refine Takes.seq (takes_char _ _ _) (Takes.seq (takes_one hletter _ _) (Takes.seq
    (takes_star_one (hcs · · |>.1) (by simp [endsName]) _) (Takes.seq (Takes.opt ?_ (by simp))
      (takes_star_nil (stays_one hv.resumes.blank) _))))
  refine Takes.seq ((((takes_one (by decide) _ _).alt_left _).chain (by simp)).star hblank) ?_
  refine takes_attrs (f :: fs) (fun x a u hx => takes_ahead_false (not_leaves_one fun y hy => ?_) a)
    (fun a b v hb hv => takes_star_nil (stays_comma hb hv) a) List.getLast?_concat hb hv
  exact Option.some.inj hy ▸ beq_false_of_ne (ne_of_isPlain hx (by decide))

/-- The pattern of a start tag in front of a tag without attributes. -/
theorem takes_startTag_bare (hfields : t.fields = []) (hs : ∀ c ∈ s, c ∈ " /".toList) (r : Text) :
    Takes startTag [] (t.head ++ s) ('>' :: r) := by
  obtain ⟨c, cs, hname, hletter⟩ := t.exists_name
  have hcs := t.inner_name hname
  have hgap : Stays (.alt blank (char '/')) ('>' :: r) :=
    (stays_one (by simp; decide)).alt (stays_one (by simp))
  have hattr : ∀ p q, Stays (attr p q) ('>' :: r) := fun _ _ => stays_attr ⟨r, Or.inl rfl⟩
  have hsplit : t.head ++ s = ['<'] ++ ([c] ++ (cs ++ ((s ++ []) ++ []))) := by
    rw [head_of_nil hfields, hname]
    simp
  have hstop : ∀ d ∈ '>' :: " /".toList, (d != Text.tick && !endsName d) = false := by decide
  have hmark : ∀ d ∈ s, ∀ a v, Takes (.alt blank (char '/')) a [d] v := fun d hd a v => by
    have hkinds : ∀ d ∈ " /".toList, d = ' ' ∨ d = '/' := by decide
    rcases hkinds d (hs d hd) with rfl | rfl
    · exact (takes_one (by decide) a v).alt_left _
    · exact takes_alt_right (not_leaves_one (by simp; decide)) (takes_char _ a v)
  rw [hsplit]
  refine Takes.seq (takes_char _ _ _) (Takes.seq (takes_one hletter _ _) (Takes.seq
    (takes_star_one (hcs · · |>.1) (fun x hx => hstop x ?_) _) (Takes.seq ?_
      (takes_star_nil (stays_one (by simp; decide)) _))))
  · rcases s with _ | ⟨y, s⟩
    · exact Option.some.inj hx ▸ List.mem_cons_self
    · exact List.mem_cons_of_mem _ (hs x (Option.some.inj hx ▸ List.mem_cons_self))
  · by_cases hnil : s = []
    · rw [hnil]
      exact takes_opt_nil (hgap.star.seq (hattr _ _).star) _
    · exact Takes.opt (((chain_chars hmark _ _).star hgap).seq (takes_star_nil (hattr _ _) _))
        (by simpa)

/-- The other pattern of a start tag. -/
theorem takes_tagInside (hb : ∀ c ∈ b, c = ' ') (hv : Ends v) :
    Takes tagInside [] (t.head ++ b) v := by
  obtain ⟨c, cs, hname, hletter⟩ := t.exists_name
  have hcs := t.inner_name hname
  have hblank : ∀ c ∈ b, Text.isBlank c = true := fun c hc => hb c hc ▸ by decide
  have hends : ∀ d ∈ " />".toList, (!endsName d) = false := by decide
  rcases hfields : t.fields with _ | ⟨f, fs⟩
  · have hsplit : t.head ++ b = ['<'] ++ ([c] ++ (cs ++ (b ++ []))) := by
      rw [head_of_nil hfields, hname]
      simp
    rw [hsplit]
    refine Takes.seq (takes_char _ _ _) (Takes.seq (takes_one hletter _ _) (Takes.seq
      (takes_star_one (hcs · · |>.2) (fun x hx => hends x ?_) _) (Takes.seq
        (takes_filler hblank hv.resumes _) (takes_star_nil (stays_attr hv) _))))
    rcases b with _ | ⟨y, b⟩
    · obtain ⟨r, rfl | rfl⟩ := hv
      · exact Option.some.inj hx ▸ by decide
      · exact Option.some.inj hx ▸ by decide
    · obtain rfl := hb y List.mem_cons_self
      exact Option.some.inj hx ▸ by decide
  · obtain ⟨d, u, hd, hspaced⟩ := exists_spaced_cons b f fs
    have hsplit : t.head ++ b = ['<'] ++ ([c] ++ (cs ++ ([' '] ++ spaced b (f :: fs)))) := by
      rw [Tag.head, hname, hfields, List.append_assoc, attributes_append]
      simp
    rw [hsplit]
    refine Takes.seq (takes_char _ _ _) (Takes.seq (takes_one hletter _ _) (Takes.seq
      (takes_star_one (hcs · · |>.2) (by simp [endsName]) _) (Takes.seq
        (takes_filler (by decide) (hspaced ▸ resumes_plain hd _) _)
        (takes_attrs (f :: fs) (fun x a u _ => ?_) (fun a b v _ _ => takes_empty a _)
          List.getLast?_concat hblank hv))))
    -- no character is barred
    exact fun k d hk => by simpa [run] using hk

/-! ### Tokens -/

theorem nameOf_name (hv : ∀ c ∈ v.head?, endsName c = true) : nameOf (t.name ++ v) = t.key := by
  have hplain : ∀ c ∈ t.name, (!endsName c) = true := fun c hc => by
    rw [endsName_of_isPlain (t.plain c hc)]
    rfl
  rw [nameOf, List.takeWhile_append_of_pos hplain]
  rcases v with _ | ⟨c, v⟩
  · simp [key]
  · rw [List.takeWhile_cons_of_neg (by simpa using hv c rfl), List.append_nil, key]

theorem nameOf_head (hv : ∀ c ∈ v.head?, endsName c = true) : nameOf ((t.head ++ v).drop 1) = t.key := by
  have hdrop : (t.head ++ v).drop 1 = t.name ++ (attributes t.fields ++ v) := by
    simp [head]
  rw [hdrop, nameOf_name]
  rcases t.fields with _ | ⟨f, fs⟩
  · exact hv
  · exact fun c hc => Option.some.inj hc ▸ by decide

theorem length_tagInside (hb : ∀ c ∈ b, c = ' ') (hv : Ends v) :
    ((tagInside.opening? (t.head ++ (b ++ v))).map (·.text.length)).getD 0 = (t.head ++ b).length := by
  rw [← List.append_assoc, (takes_tagInside hb hv).opening?]
  rfl

/-- **A start tag is one token.** -/
theorem startToken_opened (t : Tag) (r : Text) : startToken (t.opened ++ r) = (t.opened.length,
    if t.key = "hr".toList then .single t.opened true else .opened t.key) := by
  have hends : Ends ('>' :: r) := ⟨r, Or.inl rfl⟩
  have hmatch : startTag.opening? (t.head ++ '>' :: r) = some ⟨[], t.head, '>' :: r, 0, []⟩ := by
    have htakes : Takes startTag [] (t.head ++ []) ('>' :: r) := by
      by_cases hfields : t.fields = []
      · exact takes_startTag_bare hfields (by simp) r
      · exact takes_startTag hfields (by simp) hends
    rw [List.append_nil] at htakes
    exact htakes.opening?
  have hsplit : t.opened ++ r = t.head ++ '>' :: r := by simp [Tag.opened]
  have hlength : t.opened.length = t.head.length + 1 := by simp [Tag.opened]
  have htake : (t.head ++ '>' :: r).take (t.head.length + 1) = t.opened := by
    rw [← hsplit, ← hlength, List.take_left]
  have hinner := length_tagInside (t := t) (b := []) (by simp) hends
  rw [List.nil_append, List.append_nil] at hinner
  have hleft : Text.strip (t.opened.drop t.head.length) = ['>'] := by
    rw [Tag.opened, List.drop_left]
    decide
  rw [hsplit, startToken, hmatch]
  simp only [nameOf_head (t := t) (v := '>' :: r) (by simp [endsName]), htake, hinner, hleft, hlength]
  rfl

/-- **A tag that closes itself is one token.** -/
theorem startToken_single (t : Tag) (hb : ∀ c ∈ b, c = ' ') (r : Text) :
    startToken (t.head ++ b ++ "/>".toList ++ r) =
      ((t.head ++ b ++ "/>".toList).length, .single (t.head ++ b ++ "/>".toList) (isBlockTag t.key)) := by
  have hsplit : t.head ++ b ++ "/>".toList ++ r = t.head ++ (b ++ '/' :: '>' :: r) := by simp
  have hlength : (t.head ++ b ++ "/>".toList).length = (t.head ++ b).length + 2 :=
    List.length_append
  have htake : (t.head ++ (b ++ '/' :: '>' :: r)).take ((t.head ++ b).length + 2) =
      t.head ++ b ++ "/>".toList := by
    rw [← hsplit, ← hlength, List.take_left]
  have hname : nameOf ((t.head ++ (b ++ '/' :: '>' :: r)).drop 1) = t.key := by
    refine nameOf_head fun c hc => ?_
    rcases b with _ | ⟨d, b⟩
    · exact Option.some.inj hc ▸ by decide
    · exact Option.some.inj hc ▸ hb d List.mem_cons_self ▸ by decide
  by_cases hfields : t.fields = []
  · have hmatch : startTag.opening? (t.head ++ (b ++ '/' :: '>' :: r)) =
        some ⟨[], t.head ++ (b ++ ['/']), '>' :: r, 0, []⟩ := by
      have hs : ∀ c ∈ b ++ ['/'], c ∈ " /".toList := fun c hc => by
        rcases List.mem_append.1 hc with hc | hc
        · exact hb c hc ▸ by decide
        · exact List.mem_singleton.1 hc ▸ by decide
      have htakes := (takes_startTag_bare hfields hs r).opening?
      simpa using htakes
    have hinner := length_tagInside (t := t) hb (v := '/' :: '>' :: r) ⟨r, Or.inr rfl⟩
    have hleft : Text.strip ((t.head ++ b ++ "/>".toList).drop (t.head ++ b).length) =
        "/>".toList := by
      rw [List.drop_left]
      decide
    have hcount : (t.head ++ (b ++ ['/'])).length + 1 = (t.head ++ b).length + 2 := by
      simp only [List.length_append, List.length_singleton]
      omega
    rw [hsplit, startToken, hmatch]
    simp only [hname, hcount, htake, hinner, hleft, if_true, hlength]
  · have hmatch : startTag.opening? (t.head ++ (b ++ '/' :: '>' :: r)) =
        some ⟨[], t.head ++ b, '/' :: '>' :: r, 0, []⟩ := by
      rw [← List.append_assoc]
      exact (takes_startTag hfields (fun c hc => hb c hc ▸ by decide) ⟨r, Or.inr rfl⟩).opening?
    rw [hsplit, startToken, hmatch]
    simp only [hname, htake, hlength]

theorem token_eq_startToken (t : Tag) (start : Bool) (r : Text) :
    token start (t.head ++ r) = startToken (t.head ++ r) ∧ maybeDeclaration (t.head ++ r) = false := by
  obtain ⟨c, cs, hname, hletter⟩ := t.exists_name
  have hsplit : t.head ++ r = '<' :: c :: (cs ++ attributes t.fields ++ r) := by
    rw [head, hname]
    rfl
  have hmark : ∀ d ∈ "/!?".toList, c ≠ d := fun d hd h => by
    have hno : ∀ d ∈ "/!?".toList, Text.isLetter d = false := by decide
    rw [h, hno d hd] at hletter
    cases hletter
  have hdeclaration : maybeDeclaration ('<' :: c :: (cs ++ attributes t.fields ++ r)) = false := by
    simp [maybeDeclaration, Text.opens, Text.after?, (hmark '?' (by decide)).symm,
      (hmark '!' (by decide)).symm]
  rw [hsplit]
  refine ⟨?_, hdeclaration⟩
  unfold token
  rw [hdeclaration]
  simp only [Bool.false_eq_true, if_false]
  split
  · rename_i h
    exact absurd (List.cons.inj (List.cons.inj h).2).1 (hmark '/' (by decide))
  · rename_i h
    exact absurd (List.cons.inj (List.cons.inj h).2).1 (hmark '!' (by decide))
  · rename_i h
    obtain ⟨rfl, -⟩ := List.cons.inj (List.cons.inj h).2
    rw [if_pos hletter]
  · rename_i h
    exact absurd (List.cons.inj h).1 (by decide)
  · rename_i h
    exact absurd (List.cons.inj h).1 (by decide)
  · rename_i h _ _
    exact (h _ _ rfl).elim

/-- **A start tag is one token**, and so is a tag that closes itself. -/
theorem token_opened (t : Tag) (hhr : t.key ≠ "hr".toList) (start : Bool) (r : Text) :
    token start (t.opened ++ r) = (t.opened.length, .opened t.key) ∧
      maybeDeclaration (t.opened ++ r) = false := by
  have hstart := startToken_opened t r
  rw [if_neg hhr] at hstart
  have hsplit : t.opened ++ r = t.head ++ (['>'] ++ r) := List.append_assoc _ _ _
  rw [← hstart, hsplit]
  exact token_eq_startToken t start _

theorem token_hr (t : Tag) (hhr : t.key = "hr".toList) (start : Bool) (r : Text) :
    token start (t.opened ++ r) = (t.opened.length, .single t.opened true) ∧
      maybeDeclaration (t.opened ++ r) = false := by
  have hstart := startToken_opened t r
  rw [if_pos hhr] at hstart
  have hsplit : t.opened ++ r = t.head ++ (['>'] ++ r) := List.append_assoc _ _ _
  rw [← hstart, hsplit]
  exact token_eq_startToken t start _

theorem token_single (t : Tag) {b : Text} (hb : b ∈ selfClosings) (start : Bool) (r : Text) :
    token start (t.head ++ b ++ r) = ((t.head ++ b).length, .single (t.head ++ b) (isBlockTag t.key)) ∧
      maybeDeclaration (t.head ++ b ++ r) = false := by
  obtain ⟨g, hg, rfl⟩ : ∃ g : Text, (∀ c ∈ g, c = ' ') ∧ g ++ "/>".toList = b := by
    simp only [selfClosings, List.mem_cons, List.not_mem_nil, or_false] at hb
    rcases hb with rfl | rfl
    · exact ⟨[], by simp, rfl⟩
    · exact ⟨[' '], by simp, rfl⟩
  rw [← List.append_assoc, ← startToken_single t hg r]
  have hsplit : t.head ++ g ++ "/>".toList ++ r = t.head ++ (g ++ ("/>".toList ++ r)) := by
    simp only [List.append_assoc]
  rw [hsplit]
  exact token_eq_startToken t start _

theorem cutAt?_closed (t : Tag) (r : Text) :
    Text.cutAt? ['>'] (t.closed ++ r) = some ("</".toList ++ t.name, r) := by
  have hnot : '>' ∉ "</".toList ++ t.name := fun hmem => by
    rcases List.mem_append.1 hmem with hmem | hmem
    · exact absurd hmem (by decide)
    · exact absurd (t.plain _ hmem) (by decide)
  have hsplit : t.closed ++ r = ("</".toList ++ t.name) ++ '>' :: r := by simp [closed]
  rw [hsplit, Text.cutAt?_singleton hnot]

/-- **An end tag is one token.** -/
theorem token_closed (t : Tag) (start : Bool) (r : Text) :
    token start (t.closed ++ r) = (t.closed.length, .closed t.key) ∧
      maybeDeclaration (t.closed ++ r) = false := by
  obtain ⟨c, cs, hname, hletter⟩ := t.exists_name
  have hdrop : (t.closed ++ r).drop 2 = t.name ++ '>' :: r := by simp [closed]
  have hkey := nameOf_name (t := t) (v := '>' :: r) (by simp [endsName])
  refine ⟨?_, rfl⟩
  show endToken _ = _
  rw [endToken, hdrop]
  rw [hname, List.cons_append] at hkey ⊢
  simp only [hletter, if_true, cutAt?_closed, hkey]
  simp [closed, hname]

theorem opened_mark (t : Tag) : ∃ c v, t.opened = c :: v ∧ (c = '<' ∨ c = '&') :=
  ⟨'<', _, rfl, Or.inl rfl⟩

theorem closed_mark (t : Tag) : ∃ c v, t.closed = c :: v ∧ (c = '<' ∨ c = '&') :=
  ⟨'<', _, rfl, Or.inl rfl⟩

end Tag

end MathPage.Markdown.RawHtml
