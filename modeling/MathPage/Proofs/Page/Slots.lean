import MathPage.Page.Render
import MathPage.Proofs.Equation.Host
import MathPage.Proofs.Text.Code

/-!
# What a page shows of its options

A page is trusted markup with a few slots in it: the title, and the address of each link that is
given. What stands in a slot is the option with five characters written as codes.

* `Link`, `Slot` – the places of a page, and `Slot.value`, what an option has for one;
* `Frame` – the trusted markup of a page; `pieces` – the markup around the slots. It knows of the
  options only which links are given;
* `codes` – the codes of a page.

The text of a page is its pieces, each slot filled (`text_eq_pieces`); what fills a slot has no
character of markup in it and is read back (`escape_free`, `decode_escape`); and two pages in one
frame are equal only if the options are (`page_slots`).
-/

namespace MathPage.Page

/-- The links of a page. -/
inductive Link where
  | tests
  | benchmarks
  | source
  deriving DecidableEq, Repr

/-- A place of a page that an option fills. -/
inductive Slot where
  | title
  | address (l : Link)
  deriving DecidableEq, Repr

/-- The links in the order of the page. -/
def Link.all : List Link := [.tests, .benchmarks, .source]

/-- What a reader clicks on. -/
def Link.word : Link → String
  | .tests => "Tests"
  | .benchmarks => "Benchmarks"
  | .source => "Source"

/-- The option that holds the address of a link. -/
def Link.option (o : Options) : Link → Option Text
  | .tests => o.tests
  | .benchmarks => o.benchmarks
  | .source => o.source

/-- What an option has for a slot. An address that is not given counts as the empty one. -/
def Slot.value (o : Options) : Slot → Text
  | .title => o.title
  | .address l => (l.option o).getD []

/-- A piece of a page: markup as it stands, or a slot. -/
inductive Piece where
  | markup (t : Text)
  | slot (s : Slot)

/-- A piece as it is written under given options. -/
def Piece.written (o : Options) : Piece → Text
  | .markup t => t
  | .slot s => escape (s.value o)

/-- The slot that a piece is. -/
def Piece.slot? : Piece → Option Slot
  | .markup _ => none
  | .slot s => some s

/-- The trusted markup of a page: all that a caller gives but the title and the addresses. -/
structure Frame where
  head : Option Text
  prepend : Option Text
  append : Option Text
  readme : Text

/-- The frame of a converted text under given options. -/
def Frame.ofOptions (o : Options) (html : Text) : Frame := ⟨o.head, o.prepend, o.append, html⟩

/-- The markup between the title and the links. -/
def Frame.top (f : Frame) : Text :=
  "</title>\n".toList ++ block (styles ++ (View.given? f.head).toList) ++ "</head>\n<body>\n".toList

/-- The markup behind the links. -/
def Frame.rest (f : Frame) : Text :=
  block (((View.given? f.prepend).map ([·])).getD []) ++
    "<article class=\"markdown-body readme\">\n".toList ++ f.readme ++ "\n</article>\n".toList ++
    block (((View.given? f.append).map ([·])).getD []) ++ "</body>\n</html>".toList

/-- Whether the address of a link is not empty. -/
def Link.isGiven (o : Options) (l : Link) : Bool := !(Slot.value o (.address l)).isEmpty

/-- The links that are given. -/
def given (o : Options) : List Link := Link.all.filter (Link.isGiven o)

/-- The pieces of a link. -/
def Link.pieces (l : Link) : List Piece :=
  [.markup "<a href=\"".toList, .slot (.address l),
    .markup ("\">".toList ++ l.word.toList ++ "</a>".toList)]

/-- The pieces of the block of links, which is there if a link is. -/
def navigationPieces : List Link → List Piece
  | [] => []
  | l :: ls => .markup "<nav class=\"readme-nav\">\n".toList :: (l :: ls).flatMap Link.pieces ++
      [.markup "</nav>\n".toList]

/-- The pieces of a page with given links. -/
def pieces (ls : List Link) (f : Frame) : List Piece :=
  [.markup beforeTitle, .slot .title, .markup f.top] ++ navigationPieces ls ++ [.markup f.rest]

/-- The codes of a page. -/
def codes : List Text.Code :=
  [⟨"&amp;".toList, '&'⟩, ⟨"&lt;".toList, '<'⟩, ⟨"&gt;".toList, '>'⟩,
    ⟨"&#39;".toList, Text.apostrophe⟩, ⟨"&#34;".toList, Text.quote⟩]

/-! ### What fills a slot -/

theorem isTable_codes : Text.IsTable codes where
  ampersand := by decide
  apart := by decide

theorem writes_escapeChar (c : Char) : Text.Writes codes c (escapeChar c) := by
  unfold escapeChar
  split_ifs with hamp hlt hgt hapostrophe hquote
  · exact hamp ▸ .coded (k := ⟨"&amp;".toList, '&'⟩) (by decide)
  · exact hlt ▸ .coded (k := ⟨"&lt;".toList, '<'⟩) (by decide)
  · exact hgt ▸ .coded (k := ⟨"&gt;".toList, '>'⟩) (by decide)
  · exact hapostrophe ▸ .coded (k := ⟨"&#39;".toList, Text.apostrophe⟩) (by decide)
  · exact hquote ▸ .coded (k := ⟨"&#34;".toList, Text.quote⟩) (by decide)
  · exact .plain hamp

/-- What fills a slot is read back. -/
theorem decode_escape (t : Text) : Text.decode codes (escape t) = t :=
  Text.decode_flatMap isTable_codes fun c _ => writes_escapeChar c

theorem escape_injective : Function.Injective escape := fun t u h => by
  rw [← decode_escape t, h, decode_escape]

/-- The characters that open and close tags and attribute values. -/
def markupChars : Text := ['<', '>', Text.quote, Text.apostrophe]

/-- What fills a slot has no character of markup in it. -/
theorem escape_free {t : Text} {c : Char} (hc : c ∈ escape t) : c ∉ markupChars := by
  obtain ⟨d, -, hc⟩ := List.mem_flatMap.1 hc
  have hcodes : ∀ k ∈ codes, ∀ x ∈ k.written, x ∉ markupChars := by decide
  unfold escapeChar at hc
  split_ifs at hc with hamp hlt hgt hapostrophe hquote
  · exact hcodes ⟨_, '&'⟩ (by decide) c hc
  · exact hcodes ⟨_, '<'⟩ (by decide) c hc
  · exact hcodes ⟨_, '>'⟩ (by decide) c hc
  · exact hcodes ⟨_, Text.apostrophe⟩ (by decide) c hc
  · exact hcodes ⟨_, Text.quote⟩ (by decide) c hc
  · rw [List.mem_singleton.1 hc]
    simp [markupChars, hlt, hgt, hapostrophe, hquote]

theorem not_mem_escape (t : Text) {c : Char} (hc : c ∈ markupChars) : c ∉ escape t := fun hmem =>
  escape_free hmem hc

/-! ### The pieces of a page -/

/-- An option that is given and not empty, seen as a link. -/
theorem given?_option (o : Options) (l : Link) : View.given? (l.option o) =
    if l.isGiven o then some (Slot.value o (.address l)) else none := by
  show View.given? (l.option o) =
    if !((l.option o).getD []).isEmpty then some ((l.option o).getD []) else none
  rcases l.option o with _ | _ | ⟨c, t⟩ <;> rfl

theorem isSome_given?_option (o : Options) (l : Link) :
    (View.given? (l.option o)).isSome = l.isGiven o := by
  rw [given?_option]
  cases l.isGiven o <;> rfl

theorem link_eq_pieces (o : Options) (l : Link) : link l.word (l.option o) =
    if l.isGiven o then l.pieces.flatMap (Piece.written o) else [] := by
  rw [link, given?_option]
  cases l.isGiven o with
  | false => rfl
  | true => simp [Link.pieces, Piece.written]

theorem flatMap_filter {α β : Type} (p : α → Bool) (f : α → List β) (l : List α) :
    (l.filter p).flatMap f = l.flatMap fun a => if p a then f a else [] := by
  induction l with
  | nil => rfl
  | cons a l ih =>
    rw [List.flatMap_cons, ← ih]
    cases hp : p a <;> simp [hp]

theorem hasLinks_eq (o : Options) (html : Text) :
    hasLinks (View.ofOptions o html) = !(given o).isEmpty := by
  have hany : hasLinks (View.ofOptions o html) = Link.all.any (Link.isGiven o) := by
    simp only [Link.all, List.any_cons, List.any_nil, Bool.or_false, ← isSome_given?_option]
    exact Bool.or_assoc ..
  rw [hany, given]
  cases hempty : (Link.all.filter (Link.isGiven o)).isEmpty with
  | true =>
    rw [List.isEmpty_iff, List.filter_eq_nil_iff] at hempty
    simpa using hempty
  | false =>
    rw [List.isEmpty_eq_false_iff, Ne, List.filter_eq_nil_iff] at hempty
    simpa using hempty

/-- The block of links, if there is one, with its links inside. -/
theorem written_navigationPieces (o : Options) {ls : List Link} (hls : ls ≠ []) :
    (navigationPieces ls).flatMap (Piece.written o) = "<nav class=\"readme-nav\">\n".toList ++
      ((ls.flatMap Link.pieces).flatMap (Piece.written o) ++ "</nav>\n".toList) := by
  cases ls with
  | nil => exact absurd rfl hls
  | cons l ls =>
    rw [navigationPieces, List.cons_append, List.flatMap_cons, List.flatMap_append]
    rfl

theorem navigation_eq_pieces (o : Options) (html : Text) :
    navigation (View.ofOptions o html) = (navigationPieces (given o)).flatMap (Piece.written o) := by
  have hlinks : ((given o).flatMap Link.pieces).flatMap (Piece.written o) =
      link "Tests" o.tests ++ (link "Benchmarks" o.benchmarks ++ link "Source" o.source) := by
    rw [List.flatMap_assoc, given, flatMap_filter]
    simp only [← link_eq_pieces, Link.all, List.flatMap_cons, List.flatMap_nil, List.append_nil]
    rfl
  rw [navigation, hasLinks_eq]
  cases hgiven : given o with
  | nil => rfl
  | cons l ls =>
    rw [hgiven] at hlinks
    rw [written_navigationPieces o (List.cons_ne_nil l ls), hlinks]
    simp only [List.append_assoc]
    rfl

/-- A page from its title to its links and behind them. -/
theorem text_eq_frame (o : Options) (html : Text) : text (View.ofOptions o html) =
    beforeTitle ++ (escape o.title ++ ((Frame.ofOptions o html).top ++
      (navigation (View.ofOptions o html) ++ (Frame.ofOptions o html).rest))) := by
  unfold text Frame.top Frame.rest
  simp only [List.append_assoc]
  rfl

/-- **A page is its pieces**, each slot filled with the option written in codes. -/
theorem text_eq_pieces (o : Options) (html : Text) : text (View.ofOptions o html) =
    (pieces (given o) (.ofOptions o html)).flatMap (Piece.written o) := by
  rewrite [text_eq_frame, navigation_eq_pieces]
  unfold pieces
  rewrite [List.flatMap_append, List.flatMap_append]
  simp only [List.flatMap_cons, List.flatMap_nil, Piece.written, Slot.value, List.append_assoc,
    List.append_nil]

/-- Each slot of a page is there once, the title first and then the links that are given. -/
theorem slots_pieces (ls : List Link) (f : Frame) :
    (pieces ls f).filterMap Piece.slot? = .title :: ls.map Slot.address := by
  have hlinks : (ls.flatMap Link.pieces).filterMap Piece.slot? = ls.map Slot.address := by
    induction ls with
    | nil => rfl
    | cons l ls ih =>
      rw [List.flatMap_cons, List.filterMap_append, ih]
      rfl
  have hnavigation : (navigationPieces ls).filterMap Piece.slot? = ls.map Slot.address := by
    cases ls with
    | nil => rfl
    | cons l ls =>
      simp only [navigationPieces, List.cons_append, List.filterMap_cons, Piece.slot?,
        List.filterMap_append, hlinks, List.filterMap_nil, List.append_nil]
  simp only [pieces, List.filterMap_append, hnavigation, List.filterMap_cons, Piece.slot?,
    List.filterMap_nil, List.append_nil, List.singleton_append]

/-! ### What a page says of its options -/

theorem Link.word_injective : Function.Injective fun l : Link => l.word.toList := by
  intro l l'
  cases l <;> cases l' <;> decide

theorem Link.not_mem_word (l : Link) : '<' ∉ l.word.toList := by
  cases l <;> decide

/-- A link cut at the end of its address and at the end of its word. -/
theorem Link.written_eq (o : Options) (l : Link) : l.pieces.flatMap (Piece.written o) =
    "<a href=\"".toList ++ (escape (Slot.value o (.address l)) ++ Text.quote ::
      '>' :: (l.word.toList ++ '<' :: "/a>".toList)) := by
  simp [Link.pieces, Piece.written, Text.quote]

/-- Links tell which ones they are and where they lead. -/
theorem links_inj {o o' : Options} {ls ls' : List Link}
    (h : (ls.flatMap Link.pieces).flatMap (Piece.written o) =
      (ls'.flatMap Link.pieces).flatMap (Piece.written o')) :
    ls = ls' ∧ ∀ l ∈ ls, Slot.value o (.address l) = Slot.value o' (.address l) := by
  induction ls generalizing ls' with
  | nil =>
    cases ls' with
    | nil => exact ⟨rfl, fun _ hl => absurd hl List.not_mem_nil⟩
    | cons l' ls' =>
      rw [List.flatMap_cons, List.flatMap_append, l'.written_eq] at h
      cases h
  | cons l ls ih =>
    cases ls' with
    | nil =>
      rw [List.flatMap_cons, List.flatMap_append, l.written_eq] at h
      cases h
    | cons l' ls' =>
      rw [List.flatMap_cons, List.flatMap_cons, List.flatMap_append, List.flatMap_append,
        l.written_eq, l'.written_eq] at h
      simp only [List.append_assoc, List.cons_append] at h
      have hquote : Text.quote ∈ markupChars := by decide
      obtain ⟨haddress, hbehind⟩ := Text.append_cons_inj (not_mem_escape _ hquote)
        (not_mem_escape _ hquote) (List.append_cancel_left h)
      obtain ⟨hword, hlinks⟩ := Text.append_cons_inj l.not_mem_word l'.not_mem_word
        (List.cons.inj hbehind).2
      obtain rfl := Link.word_injective hword
      obtain ⟨rfl, hrest⟩ := ih (List.append_cancel_left hlinks)
      refine ⟨rfl, fun k hk => ?_⟩
      rcases List.mem_cons.1 hk with rfl | hk
      · exact escape_injective haddress
      · exact hrest k hk

theorem navigation_inj {o o' : Options} {ls ls' : List Link}
    (h : (navigationPieces ls).flatMap (Piece.written o) =
      (navigationPieces ls').flatMap (Piece.written o')) :
    ls = ls' ∧ ∀ l ∈ ls, Slot.value o (.address l) = Slot.value o' (.address l) := by
  cases ls with
  | nil =>
    cases ls' with
    | nil => exact ⟨rfl, fun _ hl => absurd hl List.not_mem_nil⟩
    | cons l' ls' => cases h
  | cons l ls =>
    cases ls' with
    | nil => cases h
    | cons l' ls' =>
      rw [written_navigationPieces o (List.cons_ne_nil l ls),
        written_navigationPieces o' (List.cons_ne_nil l' ls')] at h
      exact links_inj (List.append_cancel_right (List.append_cancel_left h))

/-- The address of a link that is not given is empty. -/
theorem value_of_not_given {o : Options} {l : Link} (hl : l ∉ given o) :
    Slot.value o (.address l) = [] := by
  have hall : l ∈ Link.all := by cases l <;> decide
  by_contra hne
  refine hl (List.mem_filter.2 ⟨hall, ?_⟩)
  rw [Link.isGiven, List.isEmpty_eq_false_iff.2 hne]
  rfl

/-- Options that fill the slots alike give the same links. -/
theorem given_congr {o o' : Options} (h : ∀ s, Slot.value o s = Slot.value o' s) :
    given o = given o' := List.filter_congr fun l _ => by rw [Link.isGiven, Link.isGiven, h]

/-- **A page tells what fills its slots.** -/
theorem text_eq_iff {o o' : Options} {html : Text}
    (hframe : Frame.ofOptions o html = .ofOptions o' html) :
    text (View.ofOptions o html) = text (View.ofOptions o' html) ↔
      ∀ s, Slot.value o s = Slot.value o' s := by
  constructor
  · intro h
    rewrite [text_eq_frame, text_eq_frame, hframe] at h
    -- the title ends at the bracket that closes its element
    have htop : ∀ f : Frame, ∃ u, f.top = '<' :: u := fun f => ⟨_, rfl⟩
    obtain ⟨u, hu⟩ := htop (.ofOptions o' html)
    rewrite [hu, List.cons_append, List.cons_append] at h
    have hangle : '<' ∈ markupChars := by decide
    obtain ⟨htitle, h⟩ := Text.append_cons_inj (not_mem_escape _ hangle) (not_mem_escape _ hangle)
      (List.append_cancel_left h)
    have hnavigation := List.append_cancel_right (List.append_cancel_left h)
    rewrite [navigation_eq_pieces, navigation_eq_pieces] at hnavigation
    obtain ⟨hgiven, haddress⟩ := navigation_inj hnavigation
    intro s
    cases s with
    | title => exact escape_injective htitle
    | address l =>
      by_cases hl : l ∈ given o
      · exact haddress l hl
      · rw [value_of_not_given hl, value_of_not_given (hgiven ▸ hl)]
  · intro h
    have hwritten : Piece.written o = Piece.written o' := by
      funext p
      cases p with
      | markup t => rfl
      | slot s => rw [Piece.written, Piece.written, h s]
    rw [text_eq_pieces, text_eq_pieces, hframe, hwritten, given_congr h]

/-- A page is rendered whenever the logger takes the messages about it. -/
theorem render_computes {ω : Type} (h : Host ω) (v : View) : h.Computes (render h v) (.ok (text v)) :=
  .after_log fun _ => .after_log fun _ => Host.computes_pure _

/-- **Options cannot forge a page.** A page is markup with slots for the title and for the addresses
that are given, each of them once, and the markup knows of these options only which addresses are
given. What is written in a slot holds no angle bracket, no quotation mark and no apostrophe, and
undoing the codes gives the option itself. Two pages with the same trusted markup are equal exactly
if the titles and the addresses are, where an address that is not given counts as the empty one. A
logger that takes every message does not change the page. -/
theorem page_slots (html : Text) :
    (∀ o : Options,
      text (View.ofOptions o html) =
        (pieces (given o) (.ofOptions o html)).flatMap (Piece.written o) ∧
      (pieces (given o) (.ofOptions o html)).filterMap Piece.slot? =
        .title :: (given o).map Slot.address ∧
      ∀ s : Slot,
        (∀ c ∈ (Piece.slot s).written o, c ∉ ['<', '>', Text.quote, Text.apostrophe]) ∧
          Text.decode codes ((Piece.slot s).written o) = s.value o) ∧
    (∀ o o' : Options, o.head = o'.head → o.prepend = o'.prepend → o.append = o'.append →
      (text (View.ofOptions o html) = text (View.ofOptions o' html) ↔
        o.title = o'.title ∧ o.tests.getD [] = o'.tests.getD [] ∧
          o.benchmarks.getD [] = o'.benchmarks.getD [] ∧ o.source.getD [] = o'.source.getD [])) ∧
    ∀ (ω : Type) (h : Host ω) (w : ω) (o : Options), h.NeverRefuses →
      (render h (View.ofOptions o html) w).1 = .ok (text (View.ofOptions o html)) := by
  refine ⟨fun o => ⟨text_eq_pieces o html, slots_pieces _ _, fun s =>
    ⟨fun c hc => escape_free hc, decode_escape _⟩⟩, fun o o' hhead hprepend happend => ?_,
    fun ω h w o hq => ?_⟩
  · have hframe : Frame.ofOptions o html = .ofOptions o' html := by
      rw [Frame.ofOptions, Frame.ofOptions, hhead, hprepend, happend]
    rw [text_eq_iff hframe]
    constructor
    · intro h
      exact ⟨h .title, h (.address .tests), h (.address .benchmarks), h (.address .source)⟩
    · rintro ⟨htitle, htests, hbenchmarks, hsource⟩ s
      cases s with
      | title => exact htitle
      | address l =>
        cases l with
        | tests => exact htests
        | benchmarks => exact hbenchmarks
        | source => exact hsource
  · obtain ⟨v, hv, -⟩ := (render_computes h _).exists_eq hq w
    rw [hv]

/-- Options that try to close the title and the address of a link. -/
def forgingSample : Options :=
  { title := "</title>&lt;".toList, tests := some "\x22>'".toList, source := some [] }

theorem page_slots_forging :
    (Piece.slot (.address .tests)).written forgingSample = "&#34;&gt;&#39;".toList ∧
      Text.decode codes "&#34;&gt;&#39;".toList = "\x22>'".toList ∧
      (pieces (given forgingSample) (.ofOptions forgingSample [])).filterMap Piece.slot? =
        [.title, .address .tests] ∧
      text (View.ofOptions forgingSample []) =
        text (View.ofOptions { forgingSample with source := none } []) ∧
      text (View.ofOptions forgingSample []) ≠
        text (View.ofOptions { forgingSample with tests := none } []) := by
  obtain ⟨hslots, heq, -⟩ := page_slots []
  obtain ⟨-, hpieces, hwritten⟩ := hslots forgingSample
  have hsource := heq forgingSample { forgingSample with source := none } rfl rfl rfl
  have htests := heq forgingSample { forgingSample with tests := none } rfl rfl rfl
  refine ⟨rfl, (hwritten (.address .tests)).2, hpieces, ?_, fun hpage => ?_⟩
  · exact hsource.2 ⟨rfl, rfl, rfl, rfl⟩
  · exact absurd (htests.1 hpage).2.1 (by decide)

end MathPage.Page
