import Mathlib.Tactic
import MathPage.Path
import MathPage.Proofs.Text.Lines

/-!
# Places are a normal form of paths

* `Path.IsEntryName`, `Place.IsNormal` – what a folder can call an entry, and places whose names are
  all of that kind;
* `Path.isNormal_resolve` – a text leads from a normal place to a normal place;
* `Path.ofText_toText` – a normal place is read back from what is written for it;
* `Path.resolve_ofPlace` – and its path leads to it from everywhere;
* `Path.resolve_join` – a joined path leads to where its second part leads from the first one.

A step up from a normal place leaves a beginning of it, and a step down adds a name that says
something, so that `..` never stands in a place that was reached (`Place.IsNormal.step`).
-/

namespace MathPage

namespace Path

/-- A name that says where to go and names no entry: the empty one and `.` stay, `..` goes up. -/
def IsSign (n : Text) : Prop := n = [] ∨ n = ['.'] ∨ n = ['.', '.']

/-- What a folder can call an entry. -/
structure IsEntryName (n : Text) : Prop where
  not_isSign : ¬ IsSign n
  no_slash : '/' ∉ n
  no_null : '\x00' ∉ n

end Path

/-- All names on the way are names of entries. -/
def Place.IsNormal (p : Place) : Prop := ∀ n ∈ p, Path.IsEntryName n

/-- The place that a text leads to from the root. -/
def Place.ofText (t : Text) : Place := (Path.ofText t).resolve []

/-! ### Steps -/

namespace Path

variable {n : Text}

theorem isName_eq_false_iff : isName n = false ↔ n = [] ∨ n = ['.'] := by
  simp [isName, or_iff_not_imp_left]

theorem isName_of_not_isSign (hn : ¬ IsSign n) : isName n = true := by
  rw [← Bool.not_eq_false, isName_eq_false_iff]
  exact fun h => hn (or_assoc.1 (Or.inl h))

theorem step_of_stays (p : Place) (hn : n = [] ∨ n = ['.']) : step p n = p := by
  rcases hn with rfl | rfl <;> rfl

theorem step_dots (p : Place) : step p ['.', '.'] = p.dropLast := rfl

theorem step_of_not_isSign (p : Place) (hn : ¬ IsSign n) : step p n = p ++ [n] := by
  rw [step, if_neg fun hdots => hn (Or.inr (Or.inr hdots)), if_pos (isName_of_not_isSign hn)]

end Path

namespace Place.IsNormal

variable {p : Place} {n : Text} {ns : List Text}

theorem nil : IsNormal [] := fun _ h => absurd h List.not_mem_nil

/-- **A step leads from a normal place to a normal place.** -/
theorem step (hp : p.IsNormal) (hslash : '/' ∉ n) (hnull : '\x00' ∉ n) :
    IsNormal (Path.step p n) := by
  by_cases hn : Path.IsSign n
  · rcases or_assoc.2 hn with hstays | rfl
    · rw [Path.step_of_stays p hstays]
      exact hp
    · rw [Path.step_dots]
      exact fun m hm => hp m (List.mem_of_mem_dropLast hm)
  · rw [Path.step_of_not_isSign p hn]
    exact List.forall_mem_append.2 ⟨hp, List.forall_mem_singleton.2 ⟨hn, hslash, hnull⟩⟩

theorem walk (hp : p.IsNormal) (hslash : ∀ n ∈ ns, '/' ∉ n) (hnull : ∀ n ∈ ns, '\x00' ∉ n) :
    IsNormal (Path.walk p ns) := by
  induction ns generalizing p with
  | nil => exact hp
  | cons n ns ih =>
    rw [List.forall_mem_cons] at hslash hnull
    exact ih (hp.step hslash.1 hnull.1) hslash.2 hnull.2

end Place.IsNormal

namespace Path

variable {p current : Place} {t : Text}

/-! ### Walks -/

theorem walk_append (p : Place) (ns ms : List Text) : walk p (ns ++ ms) = walk (walk p ns) ms :=
  List.foldl_append

/-- The names that say nothing lead nowhere. -/
theorem walk_filter (p : Place) (ns : List Text) : walk p (ns.filter isName) = walk p ns := by
  induction ns generalizing p with
  | nil => rfl
  | cons n ns ih =>
    cases hn : isName n with
    | false =>
      rw [List.filter_cons_of_neg (by simp [hn]), ih]
      exact congrArg (walk · ns) (step_of_stays p (isName_eq_false_iff.1 hn)).symm
    | true =>
      rw [List.filter_cons_of_pos hn]
      exact ih (step p n)

/-- Names of entries lead down only. -/
theorem walk_of_isNormal {ns : List Text} (hns : Place.IsNormal ns) (p : Place) :
    walk p ns = p ++ ns := by
  induction ns generalizing p with
  | nil => exact (List.append_nil p).symm
  | cons n ns ih =>
    obtain ⟨hn, hns⟩ := List.forall_mem_cons.1 hns
    show walk (step p n) ns = _
    rw [step_of_not_isSign p hn.not_isSign, ih hns, List.append_assoc]
    rfl

/-! ### Paths that are read from texts -/

/-- The place where the way along a text starts: the root, if the text begins with a slash. -/
def origin (current : Place) (t : Text) : Place := if t.head? = some '/' then [] else current

theorem anchorOf_eq_here_iff : anchorOf t = .here ↔ t.head? ≠ some '/' := by
  unfold anchorOf
  split
  case h_4 hne =>
    refine ⟨fun _ hhead => ?_, fun _ => rfl⟩
    obtain ⟨rest, rfl⟩ := List.head?_eq_some_iff.1 hhead
    exact hne rest rfl
  all_goals simp

/-- A path that was read leads along all pieces of its text between the slashes. -/
theorem resolve_ofText (current : Place) (t : Text) :
    (ofText t).resolve current = walk (origin current t) (Text.splitChar '/' t) := by
  rw [← walk_filter, origin]
  by_cases ht : t.head? = some '/'
  · have hanchor : anchorOf t ≠ .here := mt anchorOf_eq_here_iff.1 (not_not.2 ht)
    rw [if_pos ht]
    unfold resolve
    split
    · rename_i hhere
      exact absurd hhere hanchor
    all_goals rfl
  · have hanchor : (ofText t).anchor = .here := anchorOf_eq_here_iff.2 ht
    rw [if_neg ht, resolve, hanchor]
    rfl

/-- **A text leads from a normal place to a normal place.** -/
theorem isNormal_resolve (hcurrent : current.IsNormal) (hnull : '\x00' ∉ t) :
    Place.IsNormal ((ofText t).resolve current) := by
  have horigin : Place.IsNormal (origin current t) := by
    unfold origin
    split
    · exact .nil
    · exact hcurrent
  rw [resolve_ofText]
  refine horigin.walk (fun n hn => Text.not_mem_of_mem_splitChar hn) fun n hn hmem => hnull ?_
  exact (Text.exists_mem_splitChar_iff (by decide)).1 ⟨n, hn, hmem⟩

/-! ### What is written for a place -/

theorem anchorOf_slash_cons {c : Char} (hc : c ≠ '/') (t : Text) :
    anchorOf ('/' :: c :: t) = .root := by
  unfold anchorOf
  split <;> simp_all

/-- **A normal place is read back from what is written for it.** -/
theorem ofText_toText (hp : p.IsNormal) : ofText p.toText = ofPlace p := by
  rcases p with _ | ⟨n, ns⟩
  · rfl
  have hslash : ∀ m ∈ n :: ns, '/' ∉ m := fun m hm => (hp m hm).no_slash
  have htext : Place.toText (n :: ns) = '/' :: Text.join ['/'] (n :: ns) := rfl
  -- the first name has a first character, so that there is just one slash in front
  obtain ⟨c, rest, hjoin, hc⟩ : ∃ c rest, Text.join ['/'] (n :: ns) = c :: rest ∧ c ≠ '/' := by
    obtain ⟨c, n, rfl⟩ := List.exists_cons_of_ne_nil fun hnil =>
      (hp n List.mem_cons_self).not_isSign (Or.inl hnil)
    have hc : c ≠ '/' := Ne.symm (List.ne_of_not_mem_cons (hslash _ List.mem_cons_self))
    cases ns <;> exact ⟨c, _, rfl, hc⟩
  have hanchor : anchorOf (Place.toText (n :: ns)) = .root := by
    rw [htext, hjoin, anchorOf_slash_cons hc]
  have hnames : (Text.splitChar '/' (Place.toText (n :: ns))).filter isName = n :: ns := by
    rw [htext, Text.splitChar, if_pos rfl, Text.splitChar_join (List.cons_ne_nil _ _) hslash]
    exact List.filter_eq_self.2 fun m hm => isName_of_not_isSign (hp m hm).not_isSign
  rw [ofText, hanchor, hnames, ofPlace]

/-! ### Paths of places -/

/-- The path of a normal place leads to it from everywhere. -/
theorem resolve_ofPlace (hp : p.IsNormal) (current : Place) : (ofPlace p).resolve current = p :=
  walk_of_isNormal hp []

/-- A path that is joined to one from the root leads to where it leads from there. -/
theorem resolve_join {p : Path} (hp : p.anchor ≠ .here) (q : Path) (current : Place) :
    (p.join q).resolve current = q.resolve (p.resolve []) := by
  obtain ⟨a, ns⟩ := p
  obtain ⟨b, ms⟩ := q
  cases b with
  | here =>
    cases a with
    | here => exact absurd rfl hp
    | root | doubleRoot => exact walk_append [] ns ms
  | root | doubleRoot => rfl

end Path

end MathPage
