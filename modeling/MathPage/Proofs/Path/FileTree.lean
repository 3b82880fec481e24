import MathPage.Conversion.Drive
import MathPage.Proofs.Path.Normal

/-!
# The way of a path through a file tree

A file tree may hold symbolic links beside what a drive holds, and then where a text leads depends
on the tree.

* `FileTree.Follows`, `FileTree.Leads` – the ways along names and along a text;
* `FileTree.Linkless` – a tree without links, such as that of a drive (`Drive.linkless_fileTree`);
* `FileTree.leads_iff` – in such a tree a text leads to one place, whatever exists on the way.

The rules of a way do not ask whether anything exists where a name goes down, or whether it is a
folder. So the walk that looks at the names alone finds the place in every tree without links.
-/

namespace MathPage

/-- What stands at a place of a file tree: what a drive can hold, or a symbolic link. -/
inductive FileTree.Node where
  | held (node : Drive.Node)
  | link (target : Text)

/-- What exists at which place. -/
abbrev FileTree := Place → Option FileTree.Node

namespace FileTree

/-- A way along names, from a place to a place. At the empty name and at `.` it stays; at `..` it
goes one step up, but from the root nowhere; at any other name it goes down, unless there is a link
of this name: then it goes along the target of the link, and on from there. -/
inductive Follows (tree : FileTree) : Place → List Text → Place → Prop where
  | arrive (p : Place) : Follows tree p [] p
  | stay {p q : Place} {n : Text} {ns : List Text} (hn : n = [] ∨ n = ['.'])
    (hrest : Follows tree p ns q) : Follows tree p (n :: ns) q
  | up {p q : Place} {n : Text} {ns : List Text} (hrest : Follows tree p ns q) :
    Follows tree (p ++ [n]) (['.', '.'] :: ns) q
  | top {q : Place} {ns : List Text} (hrest : Follows tree [] ns q) :
    Follows tree [] (['.', '.'] :: ns) q
  | down {p q : Place} {n : Text} {ns : List Text} (hn : ¬ Path.IsSign n)
    (hlink : ∀ target, tree (p ++ [n]) ≠ some (.link target))
    (hrest : Follows tree (p ++ [n]) ns q) : Follows tree p (n :: ns) q
  | along {p q r : Place} {n target : Text} {ns : List Text} (hn : ¬ Path.IsSign n)
    (hlink : tree (p ++ [n]) = some (.link target))
    (htarget : Follows tree (Path.origin p target) (Text.splitChar '/' target) r)
    (hrest : Follows tree r ns q) : Follows tree p (n :: ns) q

/-- A way along the pieces of a text between its slashes, from the root if the text begins with a
slash and from the current place if not. -/
def Leads (tree : FileTree) (current : Place) (t : Text) (place : Place) : Prop :=
  tree.Follows (Path.origin current t) (Text.splitChar '/' t) place

/-- There are no symbolic links. -/
def Linkless (tree : FileTree) : Prop := ∀ p target, tree p ≠ some (.link target)

/-- Two paths, each read from a text without a null character, that lead to the same place. -/
def SameWay (tree : FileTree) (current : Place) (p p' : Path) : Prop :=
  ∃ (t t' : Text) (place : Place), p = Path.ofText t ∧ p' = Path.ofText t' ∧
    '\x00' ∉ t ∧ '\x00' ∉ t' ∧ tree.Leads current t place ∧ tree.Leads current t' place

variable {tree : FileTree}

/-- Without links a way is the walk along its names. -/
theorem Follows.eq_walk (htree : tree.Linkless) {p q : Place} {ns : List Text}
    (h : tree.Follows p ns q) : q = Path.walk p ns := by
  induction h with
  | arrive p => rfl
  | @stay p q n ns hn _ ih =>
    rw [ih]
    exact congrArg (Path.walk · ns) (Path.step_of_stays p hn).symm
  | @up p q n ns _ ih =>
    have hstep : Path.step (p ++ [n]) ['.', '.'] = p := by
      rw [Path.step_dots, List.dropLast_concat]
    rw [ih]
    exact congrArg (Path.walk · ns) hstep.symm
  | top _ ih => exact ih
  | @down p q n ns hn _ _ ih =>
    rw [ih]
    exact congrArg (Path.walk · ns) (Path.step_of_not_isSign p hn).symm
  | along _ hlink => exact absurd hlink (htree _ _)

/-- Without links the walk along names is a way. -/
theorem follows_walk (htree : tree.Linkless) (p : Place) (ns : List Text) :
    tree.Follows p ns (Path.walk p ns) := by
  induction ns generalizing p with
  | nil => exact .arrive p
  | cons n ns ih =>
    have hrest := ih (Path.step p n)
    show tree.Follows p (n :: ns) (Path.walk (Path.step p n) ns)
    by_cases hn : Path.IsSign n
    · rcases or_assoc.2 hn with hstays | rfl
      · rw [Path.step_of_stays p hstays] at hrest ⊢
        exact .stay hstays hrest
      · -- up, if there is an up
        rw [Path.step_dots] at hrest ⊢
        rcases p.eq_nil_or_concat' with rfl | ⟨p, m, rfl⟩
        · exact .top hrest
        · rw [List.dropLast_concat] at hrest ⊢
          exact .up hrest
    · rw [Path.step_of_not_isSign p hn] at hrest ⊢
      exact .down hn (htree _) hrest

/-- **Without links a text leads to one place**, whatever exists on the way. -/
theorem leads_iff (htree : tree.Linkless) {current place : Place} {t : Text} :
    tree.Leads current t place ↔ place = (Path.ofText t).resolve current := by
  rw [Path.resolve_ofText]
  constructor
  · exact Follows.eq_walk htree
  · rintro rfl
    exact follows_walk htree _ _

end FileTree

/-- The file tree that a drive is. -/
def Drive.fileTree (d : Drive) : FileTree := fun p => (d.get? p).map .held

theorem Drive.linkless_fileTree (d : Drive) : d.fileTree.Linkless := fun p target h => by
  obtain ⟨node, -, hnode⟩ := Option.map_eq_some_iff.1 h
  cases hnode

end MathPage
