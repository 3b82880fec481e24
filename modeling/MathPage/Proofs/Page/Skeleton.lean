import MathPage.Page.Template
import MathPage.Proofs.Page.Slots

/-!
# The skeleton of a page

The page is what its template gives: fixed texts, and values between them. A value is put in when
the tags have been matched and is not read again, so that nothing in it counts as a part of the
template.

* `code` – the template of every page with its tags matched (`code?_template`);
* `parts` – the pieces that it gives for a view (`pieces?_template`), which make up the page
  (`written_parts`);
* `shown` – the values among the pieces, in their order;
* `skeleton` – the fixed texts, which know of the options only which of them are given.

The pieces of each construct are told by a lemma of its own, for any template that has it
(`pieces_each`, `pieces_cond`), and those of the page follow the template (`page_skeleton`).
-/

namespace MathPage.Page

open Template (Code Expr)

/-! ### The template -/

/-- The characters of texts that are written as literals, one after the other. -/
theorem map_toList_cons {s : String} {ss : List String} {t : Text} {ts : List Text}
    (h : s = String.ofList t) (hs : ss.map String.toList = ts) :
    (s :: ss).map String.toList = t :: ts := by
  rw [List.map_cons, h, String.toList_ofList, hs]

theorem toList_append_eq {s s' : String} {t t' : Text} (h : s = String.ofList t)
    (h' : s' = String.ofList t') : (s ++ s').toList = t ++ t' := by
  rw [String.toList_append, h, h', String.toList_ofList, String.toList_ofList]

/-- The name of the template for a link. -/
def Link.name : Link → String
  | .tests => "tests"
  | .benchmarks => "benchmarks"
  | .source => "source"

/-- Items, each on a line of its own. -/
def itemsCode (e : Expr) (rest : Code) : Code :=
  .each "item".toList e (.output (.name "item".toList) true (.data ['\n'] .done)) rest

/-- A link that is left out if it has no address. -/
def linkCode (l : Link) (rest : Code) : Code :=
  .cond (.name l.name.toList)
    (.data "<a href=\"".toList <| .output (.name l.name.toList) false <|
      .data ("\">".toList ++ l.word.toList ++ "</a>".toList) .done)
    rest

/-- The block of links. -/
def navigationCode (rest : Code) : Code :=
  .cond (.either (.name Link.tests.name.toList)
      (.either (.name Link.benchmarks.name.toList) (.name Link.source.name.toList)))
    (.data "<nav class=\"readme-nav\">\n".toList <| linkCode .tests <| linkCode .benchmarks <|
      linkCode .source <| .data "</nav>\n".toList .done)
    rest

/-- The template of every page, with its tags matched. -/
def code : Code :=
  .data beforeTitle <| .output (.name "title".toList) false <| .data "</title>\n".toList <|
    itemsCode (.name "head".toList) <| .data "</head>\n<body>\n".toList <| navigationCode <|
    itemsCode (.either (.name "prepend".toList) .noItems) <|
    .data "<article class=\"markdown-body readme\">\n".toList <|
    .output (.name "readme".toList) true <| .data "\n</article>\n".toList <|
    itemsCode (.either (.name "append".toList) .noItems) <| .data "</body>\n</html>".toList .done

/-- **The template is read as it is meant.** -/
theorem code?_template : Template.code? template = some code := by
  -- the texts are taken apart here, because it is slow to do so along the template
  have hlines : template = block _ := congrArg block (by
    unfold templateLines
    repeat apply map_toList_cons rfl
    exact List.map_nil)
  have hbefore : beforeTitle = _ := toList_append_eq rfl rfl
  rw [hlines, code, hbefore]
  decide +kernel

/-! ### The pieces of a page -/

/-- The pieces of items. -/
def itemParts (ts : List Text) : List Template.Piece :=
  ts.flatMap fun t => [.verbatim t, .data ['\n']]

/-- The pieces of a link, if it has an address. -/
def linkParts (l : Link) (address : Option Text) : List Template.Piece :=
  match View.given? address with
  | some t => [.data "<a href=\"".toList, .escaped t,
      .data ("\">".toList ++ l.word.toList ++ "</a>".toList)]
  | none => []

/-- The address of a link in a view. -/
def Link.address (v : View) : Link → Option Text
  | .tests => v.tests
  | .benchmarks => v.benchmarks
  | .source => v.source

/-- The pieces of the block of links. -/
def navigationParts (v : View) : List Template.Piece :=
  if hasLinks v then
    .data "<nav class=\"readme-nav\">\n".toList ::
      (Link.all.flatMap fun l => linkParts l (l.address v)) ++ [.data "</nav>\n".toList]
  else []

/-- The pieces of a page. -/
def parts (v : View) : List Template.Piece :=
  [.data beforeTitle, .escaped v.title, .data "</title>\n".toList] ++ itemParts v.head ++
    [.data "</head>\n<body>\n".toList] ++ navigationParts v ++ itemParts (v.prepend.getD []) ++
    [.data "<article class=\"markdown-body readme\">\n".toList, .verbatim v.readme,
      .data "\n</article>\n".toList] ++
    itemParts (v.append.getD []) ++ [.data "</body>\n</html>".toList]

theorem mapM_eq_map {α β : Type} {f : α → Option β} {g : α → β} {l : List α}
    (h : ∀ a ∈ l, f a = some (g a)) : l.mapM f = some (l.map g) := by
  induction l with
  | nil => rfl
  | cons a l ih =>
    rw [List.mapM_cons, h a List.mem_cons_self, ih fun b hb => h b (List.mem_cons_of_mem a hb)]
    rfl

section Pieces

variable {values : Template.Values} {e : Expr} {body : Code}

/-- A part that is repeated gives its pieces once for each item. -/
theorem pieces_each {item : Text} {vs : List Value} {f : Value → List Template.Piece}
    (he : (e.value? values).bind Value.items? = some vs)
    (hbody : ∀ v ∈ vs, body.pieces (values.set item v) = some (f v)) (rest : Code) :
    (Code.each item e body rest).pieces values = (rest.pieces values).map (vs.flatMap f ++ ·) := by
  obtain ⟨u, hu, hitems⟩ := Option.bind_eq_some_iff.1 he
  rw [Code.pieces, hu, Option.bind_eq_bind, Option.bind_some, hitems, Option.bind_eq_bind,
    Option.bind_some, mapM_eq_map hbody]
  cases rest.pieces values <;> rfl

/-- A part that can be left out gives its pieces if something is present. -/
theorem pieces_cond {v : Value} {inner : List Template.Piece} (he : e.value? values = some v)
    (hbody : body.pieces values = some inner) (rest : Code) :
    (Code.cond e body rest).pieces values =
      (rest.pieces values).map ((if v.isTrue then inner else []) ++ ·) := by
  rw [Code.pieces, he, hbody, Option.bind_eq_bind, Option.bind_some]
  cases v.isTrue <;> cases rest.pieces values <;> rfl

/-- Of two things, the one that is chosen is present if one of them is. -/
theorem exists_either {a b : Expr} {u w : Value} (ha : a.value? values = some u)
    (hb : b.value? values = some w) :
    ∃ v, (Expr.either a b).value? values = some v ∧ v.isTrue = (u.isTrue || w.isTrue) := by
  rw [Expr.value?, ha, Option.bind_some, hb]
  cases hu : u.isTrue with
  | false => exact ⟨w, rfl, rfl⟩
  | true => exact ⟨u, rfl, hu⟩

/-- Items that may be absent. -/
theorem items_either {o : Option (List Text)}
    (he : e.value? values = some (o.elim .none fun ts => .list (ts.map .text))) :
    ((Expr.either e .noItems).value? values).bind Value.items? =
      some ((o.getD []).map .text) := by
  rw [Expr.value?, he]
  rcases o with _ | _ | ⟨t, ts⟩ <;> rfl

theorem pieces_items {ts : List Text}
    (he : (e.value? values).bind Value.items? = some (ts.map .text)) (rest : Code) :
    (itemsCode e rest).pieces values = (rest.pieces values).map (itemParts ts ++ ·) := by
  have hbody : ∀ v ∈ ts.map Value.text,
      (Code.output (.name "item".toList) true (.data ['\n'] .done)).pieces
        (values.set "item".toList v) = some [.verbatim v.plain, .data ['\n']] := fun _ _ => rfl
  rw [itemsCode, pieces_each he hbody, itemParts, List.flatMap_map]
  rfl

/-- What a view has for an address. -/
def addressValue (address : Option Text) : Value := address.elim .none .text

theorem isTrue_addressValue (address : Option Text) :
    (addressValue address).isTrue = (View.given? address).isSome := by
  rcases address with _ | _ | ⟨c, t⟩ <;> rfl

theorem pieces_link {l : Link} {address : Option Text}
    (hl : values l.name.toList = some (addressValue address)) (rest : Code) :
    (linkCode l rest).pieces values = (rest.pieces values).map (linkParts l address ++ ·) := by
  have hbody : (Code.data "<a href=\"".toList <| .output (.name l.name.toList) false <|
      .data ("\">".toList ++ l.word.toList ++ "</a>".toList) .done).pieces values =
        some [.data "<a href=\"".toList, .escaped (addressValue address).plain,
          .data ("\">".toList ++ l.word.toList ++ "</a>".toList)] := by
    simp only [Code.pieces, Expr.value?, hl]
    rfl
  rw [linkCode, pieces_cond (e := .name l.name.toList) hl hbody, isTrue_addressValue, linkParts]
  rcases address with _ | _ | ⟨c, t⟩ <;> rfl

theorem pieces_navigation {v : View}
    (hl : ∀ l : Link, values l.name.toList = some (addressValue (l.address v))) (rest : Code) :
    (navigationCode rest).pieces values = (rest.pieces values).map (navigationParts v ++ ·) := by
  have hbody : (Code.data "<nav class=\"readme-nav\">\n".toList <| linkCode .tests <|
      linkCode .benchmarks <| linkCode .source <| .data "</nav>\n".toList .done).pieces values =
        some (.data "<nav class=\"readme-nav\">\n".toList ::
          (Link.all.flatMap fun l => linkParts l (l.address v)) ++ [.data "</nav>\n".toList]) := by
    simp only [Code.pieces, pieces_link (hl _), Option.map_some, Link.all, List.flatMap_cons,
      List.flatMap_nil, List.append_nil, List.append_assoc, List.cons_append]
  -- what is tested is the first address that is present, or the last one
  obtain ⟨u, hu, hpresent⟩ := exists_either (a := .name Link.benchmarks.name.toList)
    (b := .name Link.source.name.toList) (hl _) (hl _)
  obtain ⟨w, hw, hpresent'⟩ := exists_either (a := .name Link.tests.name.toList) (hl _) hu
  have hlinks : w.isTrue = hasLinks v := by
    rw [hpresent', hpresent]
    simp only [isTrue_addressValue]
    exact (Bool.or_assoc ..).symm
  rw [navigationCode, pieces_cond hw hbody, hlinks, navigationParts]

end Pieces

/-- What stands with a name is found by it, if no other has the name. -/
theorem find?_name {l : List (String × Value)} {n : String} {x : Value}
    (hl : (l.map Prod.fst).Nodup) (hx : (n, x) ∈ l) :
    l.find? (·.1.toList == n.toList) = some (n, x) := by
  induction l with
  | nil => cases hx
  | cons f l ih =>
    obtain ⟨hf, hl⟩ := List.nodup_cons.1 hl
    rcases List.mem_cons.1 hx with rfl | hx
    · simp
    · have hne : f.1 ≠ n := fun hfx => hf (List.mem_map.2 ⟨_, hx, hfx.symm⟩)
      rw [List.find?_cons_of_neg (by simpa [String.toList_inj] using hne), ih hl hx]

theorem values_of_mem {v : View} {n : String} {x : Value} (h : (n, x) ∈ fields v) :
    values v n.toList = some x := by
  have hnames : ((fields v).map Prod.fst).Nodup := by
    show ["title", "tests", "benchmarks", "source", "head", "prepend", "append", "readme"].Nodup
    decide
  rw [values, find?_name hnames h]
  rfl

/-- **A page is what its template gives.** -/
theorem pieces?_template (v : View) : Template.pieces? template (values v) = some (parts v) := by
  have hvalue : ∀ {n : String} {x : Value}, (n, x) ∈ fields v →
      (Expr.name n.toList).value? (values v) = some x := values_of_mem
  have hlinks : ∀ l : Link, values v l.name.toList = some (addressValue (l.address v)) := fun l =>
    values_of_mem (by cases l <;> simp [fields, Link.name, Link.address, addressValue])
  have hhead : ((Expr.name "head".toList).value? (values v)).bind Value.items? =
      some (v.head.map .text) := by
    rw [hvalue (x := .list (v.head.map .text)) (by simp [fields])]
    rfl
  have hprepend := items_either (o := v.prepend)
    (hvalue (n := "prepend") (by simp [fields]))
  have happend := items_either (o := v.append) (hvalue (n := "append") (by simp [fields]))
  rw [Template.pieces?, code?_template, Option.bind_some]
  simp only [code, Code.pieces, hvalue (n := "title") (x := .text v.title) (by simp [fields]),
    hvalue (n := "readme") (x := .text v.readme) (by simp [fields]), pieces_items hhead,
    pieces_navigation hlinks, pieces_items hprepend, pieces_items happend]
  simp only [parts, Option.bind_eq_bind, Option.bind_some, Option.map_some, List.append_assoc]
  rfl

theorem written_itemParts (ts : List Text) :
    (itemParts ts).flatMap Template.Piece.written = block ts := by
  rw [itemParts, block, List.flatMap_assoc]
  exact List.flatMap_congr fun t _ => by
    simp [Template.Piece.written]

theorem written_linkParts (l : Link) (address : Option Text) :
    (linkParts l address).flatMap Template.Piece.written = link l.word address := by
  rw [linkParts, link]
  cases View.given? address with
  | none => rfl
  | some t => simp [Template.Piece.written]

theorem written_navigationParts (v : View) :
    (navigationParts v).flatMap Template.Piece.written = navigation v := by
  rw [navigationParts, navigation]
  split
  · simp only [List.cons_append, List.flatMap_cons, List.flatMap_append, written_linkParts,
      Link.all, List.flatMap_nil, List.append_nil, List.append_assoc]
    rfl
  · rfl

/-- **The pieces of a page are its text.** -/
theorem written_parts (v : View) : (parts v).flatMap Template.Piece.written = text v := by
  simp only [parts, text, List.flatMap_append, written_itemParts, written_navigationParts]
  simp only [List.flatMap_cons, List.flatMap_nil, Template.Piece.written, List.append_assoc,
    List.append_nil]

/-! ### What the pieces say of the options -/

/-- The options that a page can do without. -/
inductive Field where
  | head
  | link (l : Link)
  | prepend
  | append
  deriving DecidableEq, Repr

/-- The option of a field. -/
def Field.option (o : Options) : Field → Option Text
  | .head => o.head
  | .link l => l.option o
  | .prepend => o.prepend
  | .append => o.append

/-- Whether an option is given and not empty. -/
def Field.isGiven (o : Options) (f : Field) : Bool := (View.given? (f.option o)).isSome

/-- The values of a page in their order: the title in codes, the base styles and what else goes into
the head, the addresses in codes, and the markup before, in and behind the article. -/
def shown (o : Options) (html : Text) : List Template.Piece :=
  [.escaped o.title] ++ (styles ++ (View.given? o.head).toList).map .verbatim ++
    (Link.all.filterMap fun l => View.given? (l.option o)).map .escaped ++
    (View.given? o.prepend).toList.map .verbatim ++ [.verbatim html] ++
    (View.given? o.append).toList.map .verbatim

/-- The places of `n` items. -/
def itemSpots (n : ℕ) : List (Option Text) := (List.replicate n [none, some ['\n']]).flatten

/-- The place of an address. -/
def linkSpots (l : Link) : List (Option Text) :=
  [some "<a href=\"".toList, none, some ("\">".toList ++ l.word.toList ++ "</a>".toList)]

/-- The block of links is there if one of them is. -/
def navigationSpots (present : Field → Bool) : List (Option Text) :=
  if Link.all.any fun l => present (.link l) then
    some "<nav class=\"readme-nav\">\n".toList ::
      (Link.all.filter fun l => present (.link l)).flatMap linkSpots ++ [some "</nav>\n".toList]
  else []

/-- The fixed text of a page, with `none` in the place of each value. -/
def skeleton (present : Field → Bool) : List (Option Text) :=
  [some beforeTitle, none, some "</title>\n".toList] ++
    itemSpots (styles.length + (present .head).toNat) ++
    [some "</head>\n<body>\n".toList] ++ navigationSpots present ++
    itemSpots (present .prepend).toNat ++
    [some "<article class=\"markdown-body readme\">\n".toList, none,
      some "\n</article>\n".toList] ++
    itemSpots (present .append).toNat ++ [some "</body>\n</html>".toList]

/-- The values among pieces. -/
def valuesOf (ps : List Template.Piece) : List Template.Piece := ps.filter (·.fixed?.isNone)

theorem valuesOf_append (ps qs : List Template.Piece) :
    valuesOf (ps ++ qs) = valuesOf ps ++ valuesOf qs := List.filter_append ..

theorem valuesOf_itemParts (ts : List Text) : valuesOf (itemParts ts) = ts.map .verbatim := by
  induction ts with
  | nil => rfl
  | cons t ts ih =>
    rw [itemParts, List.flatMap_cons, ← itemParts, valuesOf_append, ih]
    rfl

theorem fixed_itemParts (ts : List Text) :
    (itemParts ts).map Template.Piece.fixed? = itemSpots ts.length := by
  induction ts with
  | nil => rfl
  | cons t ts ih =>
    rw [itemParts, List.flatMap_cons, ← itemParts, List.map_append, ih]
    rfl

theorem valuesOf_linkParts (l : Link) (address : Option Text) :
    valuesOf (linkParts l address) = (View.given? address).toList.map .escaped := by
  rw [linkParts]
  cases View.given? address <;> rfl

theorem fixed_linkParts (l : Link) (address : Option Text) :
    (linkParts l address).map Template.Piece.fixed? =
      if (View.given? address).isSome then linkSpots l else [] := by
  rw [linkParts]
  cases View.given? address <;> rfl

theorem hasLinks_eq_any (o : Options) (html : Text) : hasLinks (View.ofOptions o html) =
    Link.all.any fun l => Field.isGiven o (.link l) := by
  simp only [Link.all, List.any_cons, List.any_nil, Bool.or_false]
  exact Bool.or_assoc ..

theorem address_ofOptions (o : Options) (html : Text) (l : Link) :
    l.address (View.ofOptions o html) = l.option o := by
  cases l <;> rfl

theorem valuesOf_navigationParts (o : Options) (html : Text) :
    valuesOf (navigationParts (View.ofOptions o html)) =
      (Link.all.filterMap fun l => View.given? (l.option o)).map .escaped := by
  rw [navigationParts, hasLinks_eq_any]
  cases hany : Link.all.any fun l => Field.isGiven o (.link l) with
  | false =>
    have hnone : Link.all.filterMap (fun l => View.given? (l.option o)) = [] :=
      List.filterMap_eq_nil_iff.2 fun l hl =>
        Option.not_isSome_iff_eq_none.1 (List.any_eq_false.1 hany l hl)
    rw [hnone]
    rfl
  | true =>
    have hlinks : valuesOf (Link.all.flatMap fun l =>
        linkParts l (l.address (View.ofOptions o html))) =
          (Link.all.filterMap fun l => View.given? (l.option o)).map .escaped := by
      rw [valuesOf, List.filter_flatMap, List.filterMap_eq_flatMap_toList, List.map_flatMap]
      exact List.flatMap_congr fun l _ => by
        rw [← valuesOf, valuesOf_linkParts, address_ofOptions]
    rw [← hlinks, if_pos rfl, valuesOf_append]
    exact List.append_nil _

theorem fixed_navigationParts (o : Options) (html : Text) :
    (navigationParts (View.ofOptions o html)).map Template.Piece.fixed? =
      navigationSpots (Field.isGiven o) := by
  rw [navigationParts, navigationSpots, hasLinks_eq_any]
  split
  · simp only [List.map_append, List.map_cons, List.map_flatMap, fixed_linkParts,
      address_ofOptions, flatMap_filter]
    rfl
  · rfl

theorem getD_map_singleton (o : Option Text) : (o.map ([·])).getD [] = o.toList := by
  cases o <;> rfl

theorem length_toList (o : Option Text) : o.toList.length = o.isSome.toNat := by
  cases o <;> rfl

/-- What a page of options has in its head, and in front of the article and behind it. -/
theorem ofOptions_items (o : Options) (html : Text) :
    (View.ofOptions o html).head = styles ++ (View.given? o.head).toList ∧
      (View.ofOptions o html).prepend.getD [] = (View.given? o.prepend).toList ∧
      (View.ofOptions o html).append.getD [] = (View.given? o.append).toList :=
  ⟨rfl, getD_map_singleton _, getD_map_singleton _⟩

theorem valuesOf_parts (o : Options) (html : Text) :
    valuesOf (parts (View.ofOptions o html)) = shown o html := by
  obtain ⟨hhead, hprepend, happend⟩ := ofOptions_items o html
  simp only [parts, valuesOf_append, valuesOf_itemParts, valuesOf_navigationParts, hhead, hprepend,
    happend]
  have hdata : ∀ t, valuesOf [.data t] = [] := fun _ => rfl
  simp only [shown, hdata, List.append_nil]
  rfl

theorem fixed_parts (o : Options) (html : Text) :
    (parts (View.ofOptions o html)).map Template.Piece.fixed? = skeleton (Field.isGiven o) := by
  obtain ⟨hhead, hprepend, happend⟩ := ofOptions_items o html
  simp only [parts, List.map_append, fixed_itemParts, fixed_navigationParts, hhead, hprepend,
    happend, List.length_append, length_toList]
  rfl

theorem valuesOf_cons (p : Template.Piece) (ps : List Template.Piece) :
    valuesOf (p :: ps) = if p.fixed?.isNone then p :: valuesOf ps else valuesOf ps := by
  rw [valuesOf, List.filter_cons]
  rfl

/-- Pieces are told by their fixed texts and their values. -/
theorem pieces_ext {ps qs : List Template.Piece} (hv : valuesOf ps = valuesOf qs)
    (hf : ps.map Template.Piece.fixed? = qs.map Template.Piece.fixed?) : ps = qs := by
  induction ps generalizing qs with
  | nil => exact (List.map_eq_nil_iff.1 hf.symm).symm
  | cons p ps ih =>
    cases qs with
    | nil => cases hf
    | cons q qs =>
      obtain ⟨hpq, hf⟩ := List.cons.inj hf
      rw [valuesOf_cons, valuesOf_cons, hpq] at hv
      cases hq : q.fixed? with
      | none =>
        rw [hq] at hv
        obtain ⟨hsame, hrest⟩ := List.cons.inj hv
        rw [hsame, ih hrest hf]
      | some t =>
        rw [hq] at hv hpq
        have hdata : ∀ {r : Template.Piece}, r.fixed? = some t → r = .data t := fun {r} hr => by
          cases r <;> cases hr
          rfl
        rw [hdata hpq, hdata hq, ih hv hf]

/-- Nothing and the empty text are given alike. -/
theorem given?_congr {a b : Option Text} (h : a.getD [] = b.getD []) :
    View.given? a = View.given? b := by
  have hgiven : ∀ c : Option Text, View.given? c = View.given? (some (c.getD [])) := fun c => by
    cases c <;> rfl
  rw [hgiven a, hgiven b, h]

/-- **A page is a fixed skeleton filled in order.** The pieces that the template gives make up the
page. The values among them are the title, the base styles and what is given for the head, the
addresses that are given, what is given for the place before the article, the converted text, and
what is given for the place behind it, in this order and no others. What remains without the values
depends on nothing but which of the options are given. Options that agree in the title and in what
is given, where nothing is the same as the empty text, give the same page. -/
theorem page_skeleton (o : Options) (html : Text) :
    (∃ ps : List Template.Piece,
      Template.pieces? template (values (View.ofOptions o html)) = some ps ∧
      text (View.ofOptions o html) = ps.flatMap Template.Piece.written ∧
      valuesOf ps = shown o html ∧
      ps.map Template.Piece.fixed? = skeleton (Field.isGiven o)) ∧
    (∀ o' : Options, o'.title = o.title →
      (∀ f : Field, (f.option o').getD [] = (f.option o).getD []) →
        text (View.ofOptions o' html) = text (View.ofOptions o html)) ∧
    ∀ (ω : Type) (h : Host ω) (w : ω), h.NeverRefuses →
      (render h (View.ofOptions o html) w).1 = .ok (text (View.ofOptions o html)) := by
  refine ⟨⟨parts (View.ofOptions o html), pieces?_template _, (written_parts _).symm,
    valuesOf_parts o html, fixed_parts o html⟩, fun o' htitle hfields => ?_, fun ω h w hq => ?_⟩
  · have hgiven : ∀ f : Field, View.given? (f.option o') = View.given? (f.option o) := fun f =>
      given?_congr (hfields f)
    have hshown : shown o' html = shown o html := by
      have hlinks : (fun l : Link => View.given? (l.option o')) =
          fun l => View.given? (l.option o) := funext fun l => hgiven (.link l)
      have hhead : View.given? o'.head = View.given? o.head := hgiven .head
      have hprepend : View.given? o'.prepend = View.given? o.prepend := hgiven .prepend
      have happend : View.given? o'.append = View.given? o.append := hgiven .append
      rw [shown, shown, htitle, hlinks, hhead, hprepend, happend]
    have hpresent : Field.isGiven o' = Field.isGiven o := funext fun f => by
      rw [Field.isGiven, Field.isGiven, hgiven]
    rw [← written_parts, ← written_parts (View.ofOptions o html)]
    refine congrArg _ (pieces_ext ?_ ?_)
    · rw [valuesOf_parts, valuesOf_parts, hshown]
    · rw [fixed_parts, fixed_parts, hpresent]
  · obtain ⟨v, hv, -⟩ := (render_computes h _).exists_eq hq w
    rw [hv]

/-- Options with a line feed in one value and marks of the template in another. -/
def skeletonSample : Options :=
  { title := "a<b".toList, tests := some [], source := some "\x7b\x7b title \x7d\x7d".toList,
    head := some "x\ny".toList }

theorem page_skeleton_marks :
    (∃ ps : List Template.Piece,
      Template.pieces? template (values (View.ofOptions skeletonSample [])) = some ps ∧
        valuesOf ps = [.escaped "a<b".toList] ++ styles.map .verbatim ++
          [.verbatim "x\ny".toList, .escaped "\x7b\x7b title \x7d\x7d".toList, .verbatim []]) ∧
      text (View.ofOptions
        { skeletonSample with tests := none, append := some [], fragment := true } []) =
          text (View.ofOptions skeletonSample []) ∧
      (render (⟨fun _ => pure none, fun _ _ => pure ()⟩ : Host Unit)
        (View.ofOptions skeletonSample []) ()).1 =
          .ok (text (View.ofOptions skeletonSample [])) := by
  obtain ⟨⟨ps, hps, -, hvalues, -⟩, hsame, hrender⟩ := page_skeleton skeletonSample []
  refine ⟨⟨ps, hps, hvalues⟩, hsame _ rfl fun f => ?_, hrender Unit _ () fun _ _ _ => rfl⟩
  cases f with
  | head | prepend | append => rfl
  | link l => cases l <;> rfl

end MathPage.Page
