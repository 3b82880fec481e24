import MathPage.Document.Element
import MathPage.Proofs.Text.Code

/-!
# Reading markup back

A reader that goes through markup character by character and knows nothing of how it was written. An
attribute value goes up to the next mark of the kind that opens it, and its codes are undone.

* `Token` – a tag or the text between two tags; `step` – one character, `tokens?` – a whole text;
* `Node` – an element with what it holds, or a text; `assemble` – the nodes that tokens stand for;
* `nodes?` – the nodes of a text.

A run of characters that a place of the reader collects is collected as a whole (`run_extend`); from
this it follows what the reader makes of an attribute and of a tag with any attributes (`run_fields`,
`run_tag`).
-/

namespace MathPage.Reader

/-- The name of a tag and its attributes. -/
structure Tag where
  name : Text
  attributes : List (Text × Text)
  deriving DecidableEq, Repr

/-- A piece of markup. -/
inductive Token where
  | text (t : Text)
  | opening (tag : Tag)
  | closing (name : Text)
  deriving DecidableEq, Repr

/-- Where a reader stands, with what it has collected there. -/
inductive Place where
  /-- between two tags -/
  | text (t : Text)
  /-- in the name of a tag -/
  | name (n : Text)
  /-- in the name of a closing tag -/
  | closing (n : Text)
  /-- in a tag, between its attributes -/
  | gap (tag : Tag)
  /-- in the name of an attribute -/
  | key (tag : Tag) (k : Text)
  /-- behind the equals sign of an attribute -/
  | equals (tag : Tag) (k : Text)
  /-- in the value of an attribute, which the given mark ends -/
  | value (tag : Tag) (k : Text) (mark : Char) (v : Text)
  deriving DecidableEq, Repr

/-- What a reader has read, and where it stands. -/
structure State where
  done : List Token
  place : Place
  deriving DecidableEq, Repr

/-- The codes of an attribute value. -/
def codes : List Text.Code :=
  [⟨"&amp;".toList, '&'⟩, ⟨"&lt;".toList, '<'⟩, ⟨"&gt;".toList, '>'⟩, ⟨"&quot;".toList, Text.quote⟩]

/-- Adds an attribute. -/
def Tag.add (tag : Tag) (k v : Text) : Tag := { tag with attributes := tag.attributes ++ [(k, v)] }

/-- The text between two tags, if there is any. -/
def texts (t : Text) : List Token := if t.isEmpty then [] else [.text t]

/-- Reads one character. -/
def step (s : State) (c : Char) : Option State :=
  match s.place with
  | .text t =>
    if c = '<' then some ⟨s.done ++ texts t, .name []⟩ else some ⟨s.done, .text (t ++ [c])⟩
  | .name n =>
    if c = '>' then some ⟨s.done ++ [.opening ⟨n, []⟩], .text []⟩
    else if c = ' ' then some ⟨s.done, .gap ⟨n, []⟩⟩
    else if c = '/' then some ⟨s.done, if n.isEmpty then .closing [] else .gap ⟨n, []⟩⟩
    else some ⟨s.done, .name (n ++ [c])⟩
  | .closing n =>
    if c = '>' then some ⟨s.done ++ [.closing n], .text []⟩ else some ⟨s.done, .closing (n ++ [c])⟩
  | .gap tag =>
    if c = '>' then some ⟨s.done ++ [.opening tag], .text []⟩
    else if c = ' ' ∨ c = '/' then some s
    else some ⟨s.done, .key tag [c]⟩
  | .key tag k =>
    if c = '=' then some ⟨s.done, .equals tag k⟩
    else if c = ' ' ∨ c = '/' ∨ c = '>' then none
    else some ⟨s.done, .key tag (k ++ [c])⟩
  | .equals tag k =>
    if c = Text.quote ∨ c = Text.apostrophe then some ⟨s.done, .value tag k c []⟩ else none
  | .value tag k mark v =>
    if c = mark then some ⟨s.done, .gap (tag.add k (Text.decode codes v))⟩
    else some ⟨s.done, .value tag k mark (v ++ [c])⟩

/-- Reads several characters. -/
def run (s : State) (t : Text) : Option State := t.foldlM step s

/-- What has been read at the end, which must not stand inside a tag. -/
def State.finish (s : State) : Option (List Token) :=
  match s.place with
  | .text t => some (s.done ++ texts t)
  | _ => none

/-- The tokens of a text. -/
def tokens? (t : Text) : Option (List Token) := (run ⟨[], .text []⟩ t).bind State.finish

/-- An element with its attributes and what it holds, or a text. -/
inductive Node where
  | text (t : Text)
  | element (name : Text) (attributes : List (Text × Text)) (children : List Node)

/-- The nodes of tokens. The elements that are open, innermost first, stand with what was read in
front of them; `done` is what was read inside the innermost one. -/
def assemble : List (Tag × List Node) → List Node → List Token → Option (List Node)
  | [], done, [] => some done
  | _ :: _, _, [] => none
  | stack, done, .text t :: ts => assemble stack (done ++ [.text t]) ts
  | stack, done, .opening tag :: ts =>
    if isVoidTag tag.name then assemble stack (done ++ [.element tag.name tag.attributes []]) ts
    else assemble ((tag, done) :: stack) [] ts
  | [], _, .closing _ :: _ => none
  | (tag, before) :: stack, done, .closing n :: ts =>
    if n = tag.name then assemble stack (before ++ [.element tag.name tag.attributes done]) ts
    else none

/-- The nodes of a text. -/
def nodes? (t : Text) : Option (List Node) := (tokens? t).bind (assemble [] [])

theorem isTable_codes : Text.IsTable codes where
  ampersand := by decide
  apart := by decide

/-! ### Runs of characters -/

@[simp] theorem run_nil (s : State) : run s [] = some s := rfl

@[simp] theorem run_cons (s : State) (c : Char) (t : Text) :
    run s (c :: t) = (step s c).bind fun s' => run s' t := rfl

theorem run_append (s : State) (t u : Text) :
    run s (t ++ u) = (run s t).bind fun s' => run s' u := List.foldlM_append

/-- A run of characters that a place collects one by one is collected as a whole. -/
theorem run_extend {d : List Token} {p : Text → Place} {t : Text}
    (hstep : ∀ u, ∀ c ∈ t, step ⟨d, p u⟩ c = some ⟨d, p (u ++ [c])⟩) (u : Text) :
    run ⟨d, p u⟩ t = some ⟨d, p (u ++ t)⟩ := by
  induction t generalizing u with
  | nil => rw [run_nil, List.append_nil]
  | cons c t ih =>
    rw [run_cons, hstep u c List.mem_cons_self, Option.bind_some,
      ih fun v x hx => hstep v x (List.mem_cons_of_mem c hx)]
    simp

theorem run_text {t : Text} (ht : '<' ∉ t) (d : List Token) (u : Text) :
    run ⟨d, .text u⟩ t = some ⟨d, .text (u ++ t)⟩ :=
  run_extend (p := .text) (fun _ _ hc => if_neg (ne_of_mem_of_not_mem hc ht)) u

/-- A name: not empty, and without the characters that end one. -/
def IsName (n : Text) : Prop := n ≠ [] ∧ ∀ c ∈ n, c ≠ ' ' ∧ c ≠ '/' ∧ c ≠ '>' ∧ c ≠ '='

instance (n : Text) : Decidable (IsName n) := inferInstanceAs (Decidable (_ ∧ _))

theorem run_name {n : Text} (hn : IsName n) (d : List Token) :
    run ⟨d, .name []⟩ n = some ⟨d, .name n⟩ :=
  run_extend (p := .name) (fun u c hc => by
    obtain ⟨hspace, hslash, hangle, -⟩ := hn.2 c hc
    simp only [step, hspace, hslash, hangle, if_false]) []

theorem run_closing {n : Text} (hn : IsName n) (d : List Token) :
    run ⟨d, .closing []⟩ n = some ⟨d, .closing n⟩ :=
  run_extend (p := .closing) (fun _ c hc => if_neg (hn.2 c hc).2.2.1) []

theorem run_key {k : Text} (hk : IsName k) (d : List Token) (tag : Tag) :
    run ⟨d, .gap tag⟩ k = some ⟨d, .key tag k⟩ := by
  obtain ⟨hne, hfree⟩ := hk
  rcases k with _ | ⟨c, k⟩
  · exact absurd rfl hne
  have hfirst : step ⟨d, .gap tag⟩ c = some ⟨d, .key tag [c]⟩ := by
    obtain ⟨hspace, hslash, hangle, -⟩ := hfree c List.mem_cons_self
    simp only [step, hspace, hslash, hangle, or_self, if_false]
  rw [run_cons, hfirst, Option.bind_some, ← List.singleton_append]
  refine run_extend (p := .key tag) (fun u x hx => ?_) [c]
  obtain ⟨hspace, hslash, hangle, hequals⟩ := hfree x (List.mem_cons_of_mem c hx)
  simp only [step, hspace, hslash, hangle, hequals, or_self, if_false]

theorem run_value {v : Text} {mark : Char} (hv : mark ∉ v) (d : List Token) (tag : Tag) (k : Text) :
    run ⟨d, .value tag k mark []⟩ v = some ⟨d, .value tag k mark v⟩ :=
  run_extend (p := .value tag k mark) (fun _ _ hc => if_neg (ne_of_mem_of_not_mem hc hv)) []

/-! ### Attributes and tags -/

/-- A value between two marks of the same kind, of which there is none inside, written in codes. -/
def Quotes (w v : Text) : Prop :=
  ∃ mark u, w = mark :: (u ++ [mark]) ∧ (mark = Text.quote ∨ mark = Text.apostrophe) ∧ mark ∉ u ∧
    Text.decode codes u = v

/-- An attribute is read with its value, whatever the value is. -/
theorem run_attribute {k w v : Text} (hk : IsName k) (hw : Quotes w v) (d : List Token) (tag : Tag) :
    run ⟨d, .gap tag⟩ (' ' :: (k ++ '=' :: w)) = some ⟨d, .gap (tag.add k v)⟩ := by
  obtain ⟨mark, u, rfl, hmark, hu, rfl⟩ := hw
  have hspace : step ⟨d, .gap tag⟩ ' ' = some ⟨d, .gap tag⟩ := rfl
  have hequals : step ⟨d, .key tag k⟩ '=' = some ⟨d, .equals tag k⟩ := rfl
  have hopen : step ⟨d, .equals tag k⟩ mark = some ⟨d, .value tag k mark []⟩ := if_pos hmark
  have hclose : step ⟨d, .value tag k mark u⟩ mark =
      some ⟨d, .gap (tag.add k (Text.decode codes u))⟩ := if_pos rfl
  rw [run_cons, hspace, Option.bind_some, run_append, run_key hk, Option.bind_some, run_cons,
    hequals, Option.bind_some, run_cons, hopen, Option.bind_some, run_append, run_value hu,
    Option.bind_some, run_cons, hclose, Option.bind_some, run_nil]

/-- Attributes as they are written, with their values between marks. -/
def fields (quoted : Text → Text) (as : List (Text × Text)) : Text :=
  as.flatMap fun a => ' ' :: (a.1 ++ '=' :: quoted a.2)

section Written

variable {quoted : Text → Text}

/-- **Attributes are read one by one**, none of them more than written and none of them less. -/
theorem run_fields (hquoted : ∀ v, Quotes (quoted v) v) {as : List (Text × Text)}
    (has : ∀ a ∈ as, IsName a.1) (d : List Token) (n : Text) (bs : List (Text × Text)) :
    run ⟨d, .gap ⟨n, bs⟩⟩ (fields quoted as) = some ⟨d, .gap ⟨n, bs ++ as⟩⟩ := by
  induction as generalizing bs with
  | nil => rw [List.append_nil]; rfl
  | cons a as ih =>
    have hfirst := run_attribute (has a List.mem_cons_self) (hquoted a.2) d ⟨n, bs⟩
    rw [fields, List.flatMap_cons, run_append, hfirst, Option.bind_some, Tag.add]
    have hrest := ih (fun b hb => has b (List.mem_cons_of_mem a hb)) (bs ++ [a])
    rwa [List.append_assoc] at hrest

/-- **A tag is read with its attributes**, whether or not it ends in a slash. -/
theorem run_tag (hquoted : ∀ v, Quotes (quoted v) v) {n : Text} (hn : IsName n)
    {as : List (Text × Text)} (has : ∀ a ∈ as, IsName a.1) {ending : Text}
    (hending : ending = ['>'] ∨ ending = ['/', '>']) (d : List Token) (t : Text) :
    run ⟨d, .text t⟩ ('<' :: (n ++ (fields quoted as ++ ending))) =
      some ⟨d ++ texts t ++ [.opening ⟨n, as⟩], .text []⟩ := by
  have hopen : step ⟨d, .text t⟩ '<' = some ⟨d ++ texts t, .name []⟩ := rfl
  have hend : ∀ tag, run ⟨d ++ texts t, .gap tag⟩ ending =
      some ⟨d ++ texts t ++ [.opening tag], .text []⟩ := fun tag => by
    rcases hending with rfl | rfl <;> rfl
  rw [run_cons, hopen, Option.bind_some, run_append, run_name hn, Option.bind_some]
  cases as with
  | nil =>
    rcases hending with rfl | rfl
    · rfl
    · have hname : n.isEmpty = false := List.isEmpty_eq_false_iff.2 hn.1
      have hslash : step ⟨d ++ texts t, .name n⟩ '/' = some ⟨d ++ texts t, .gap ⟨n, []⟩⟩ := by
        simp [step, hname]
      show run _ ['/', '>'] = _
      rw [run_cons, hslash]
      rfl
  | cons a as =>
    -- the space in front of the first attribute ends the name
    have hgap : run ⟨d ++ texts t, .name n⟩ (fields quoted (a :: as) ++ ending) =
        run ⟨d ++ texts t, .gap ⟨n, []⟩⟩ (fields quoted (a :: as) ++ ending) := rfl
    rw [hgap, run_append, run_fields hquoted has, Option.bind_some, List.nil_append, hend]

theorem run_closingTag {n : Text} (hn : IsName n) (d : List Token) (t : Text) :
    run ⟨d, .text t⟩ ('<' :: '/' :: (n ++ ['>'])) =
      some ⟨d ++ texts t ++ [.closing n], .text []⟩ := by
  have hopen : step ⟨d, .text t⟩ '<' = some ⟨d ++ texts t, .name []⟩ := rfl
  have hslash : step ⟨d ++ texts t, .name []⟩ '/' = some ⟨d ++ texts t, .closing []⟩ := rfl
  rw [run_cons, hopen, Option.bind_some, run_cons, hslash, Option.bind_some, run_append,
    run_closing hn]
  rfl

end Written

end MathPage.Reader
