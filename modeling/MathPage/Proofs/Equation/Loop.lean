import MathPage.Proofs.Equation.Siblings

/-!
# The loop over a list that it changes

The work on a list of siblings can be done in place: a cursor walks over the list, an image is
inserted into the list or put in the place of an element, and the cursor passes over the whole pair.

* `Pass.Loop` – the list, the cursor and the number of pairs;
* `Pass.Loop.turn` – one turn;
* `Pass.Loop.run` – the turns up to the end of the list or a failure, if there are no more of them
  than allowed.

The loop ends after as many turns as the list had elements at most, and it does what `Pass.scan`
does by recursion on the list (`run_eq_scan`). The invariant is that the list is what has been done,
followed by the rest as it was, and that the cursor stands between the two.
-/

namespace MathPage.Pass

open Stash

variable {ω : Type} {h : Host ω}

/-- The list that the loop works on, its cursor, and the number of pairs so far. -/
structure Loop where
  siblings : List Element
  cursor : ℕ
  count : ℕ

namespace Loop

/-- Whether an end marker stands at a position of the list. -/
def stopAt (s : Stash) (l : Loop) (i : ℕ) : Bool := l.siblings[i]?.any (isEndMarker s)

/-- One turn of the loop, with the element at the cursor. -/
def turn (h : Host ω) (l : Loop) (e : Element) : Action (State ω) Loop := fun s =>
  match startMarker? s.stash e with
  | none => (.ok { l with cursor := l.cursor + 1 }, s)
  | some marker =>
    Action.run (do
      let new ← opened h marker
      let now ← Action.state
      if l.stopAt now.stash (l.cursor + 1) then
        note h "Inserting new node...".toList
        return ⟨l.siblings.insertIdx (l.cursor + 1) new, l.cursor + 3, l.count + 1⟩
      else if l.stopAt now.stash (l.cursor + 2) then
        note h "Replacing existing node...".toList
        return ⟨l.siblings.set (l.cursor + 1) new, l.cursor + 3, l.count + 1⟩
      else
        unclosed h marker
        return l) s

/-- The loop at its end. -/
def ended (l : Loop) (f : Option Failure) (s : State ω) : Progress ω (List Element) :=
  ⟨l.siblings, l.count, f, s⟩

/-- The loop, with a bound on the number of its turns; nothing if they are too few. -/
def run (h : Host ω) : ℕ → Loop → State ω → Option (Progress ω (List Element))
  | 0, l, s => if l.cursor < l.siblings.length then none else some (l.ended none s)
  | turns + 1, l, s =>
    match l.siblings[l.cursor]? with
    | none => some (l.ended none s)
    | some e =>
      match l.turn h e s with
      | (.ok l', s₁) => run h turns l' s₁
      | (.error f, s₁) => some (l.ended (some f) s₁)

/-! ### One turn -/

/-- The loop between what has been done and the rest. -/
def between (done rest : List Element) (count : ℕ) : Loop := ⟨done ++ rest, done.length, count⟩

theorem stopAt_between (s : Stash) (done rest : List Element) (count i : ℕ) :
    (between done rest count).stopAt s (done.length + i) = rest[i]?.any (isEndMarker s) := by
  rw [stopAt, between, List.getElem?_append_right (Nat.le_add_right _ _), Nat.add_sub_cancel_left]

theorem insertIdx_between (done : List Element) (e new : Element) (rest : List Element) :
    (done ++ e :: rest).insertIdx (done.length + 1) new = done ++ e :: new :: rest := by
  induction done with
  | nil => rfl
  | cons d done ih =>
    rw [List.length_cons, List.cons_append, List.insertIdx_succ_cons, ih, List.cons_append]

theorem set_between (done : List Element) (e old new : Element) (rest : List Element) :
    (done ++ e :: old :: rest).set (done.length + 1) new = done ++ e :: new :: rest := by
  induction done with
  | nil => rfl
  | cons d done ih => rw [List.length_cons, List.cons_append, List.set_cons_succ, ih, List.cons_append]

/-- The cursor passes over the elements that have been done. -/
theorem between_append (done more rest : List Element) (count : ℕ) :
    between (done ++ more) rest count = ⟨done ++ (more ++ rest), done.length + more.length, count⟩ := by
  rw [between, List.append_assoc, List.length_append]

theorem turn_plain {s : State ω} {e : Element} (hplain : startMarker? s.stash e = none)
    (done rest : List Element) (count : ℕ) :
    (between done (e :: rest) count).turn h e s = (.ok (between (done ++ [e]) rest count), s) := by
  rw [between_append]
  simp only [turn, hplain]
  rfl

theorem turn_failed {s s₁ : State ω} {e : Element} {marker : Text} {f : Failure}
    (hstart : startMarker? s.stash e = some marker) (ho : opened h marker s = (.error f, s₁))
    (l : Loop) : l.turn h e s = (.error f, s₁) := by
  simp only [turn, hstart]
  exact Action.bind_of_error ho

/-- What a turn does that has rendered its start marker. -/
theorem turn_opened {s s₁ : State ω} {e new : Element} {marker : Text}
    (hstart : startMarker? s.stash e = some marker) (ho : opened h marker s = (.ok new, s₁))
    (done rest : List Element) (count : ℕ) :
    (between done (e :: rest) count).turn h e s =
      if rest[0]?.any (isEndMarker s₁.stash) then
        (note h "Inserting new node...".toList >>= fun _ => pure
          (⟨done ++ e :: new :: rest, done.length + 3, count + 1⟩ : Loop)) s₁
      else if rest[1]?.any (isEndMarker s₁.stash) then
        (note h "Replacing existing node...".toList >>= fun _ => pure
          (⟨(done ++ e :: rest).set (done.length + 1) new, done.length + 3, count + 1⟩ : Loop)) s₁
      else (unclosed h marker >>= fun _ => pure (between done (e :: rest) count)) s₁ := by
  have hnext := stopAt_between s₁.stash done (e :: rest) count 1
  have hthird := stopAt_between s₁.stash done (e :: rest) count 2
  simp only [turn, hstart, Action.run]
  rw [Action.bind_of_ok ho]
  show (if (between done (e :: rest) count).stopAt s₁.stash (done.length + 1) = true then _
    else if (between done (e :: rest) count).stopAt s₁.stash (done.length + 2) = true then _
    else _ : Action (State ω) Loop) s₁ = _
  rw [hnext, hthird]
  simp only [List.getElem?_cons_succ]
  split
  · rw [← insertIdx_between]
    rfl
  · split <;> rfl

/-! ### All turns -/

theorem run_nil (turns : ℕ) (done : List Element) (count : ℕ) (s : State ω) :
    run h turns (between done [] count) s = some ⟨done, count, none, s⟩ := by
  have hended : (between done [] count).ended none s = ⟨done, count, none, s⟩ := by
    rw [ended, between, List.append_nil]
  rw [← hended]
  cases turns with
  | zero =>
    rw [run, if_neg]
    simp [between]
  | succ turns =>
    have hend : (between done [] count).siblings[(between done [] count).cursor]? = none := by
      simp [between]
    simp only [run, hend]

theorem run_cons (turns : ℕ) (done : List Element) (e : Element) (rest : List Element) (count : ℕ)
    (s : State ω) : run h (turns + 1) (between done (e :: rest) count) s =
      match (between done (e :: rest) count).turn h e s with
      | (.ok l, s₁) => run h turns l s₁
      | (.error f, s₁) => some ⟨done ++ e :: rest, count, some f, s₁⟩ := by
  have hhere : (between done (e :: rest) count).siblings[(between done (e :: rest) count).cursor]? =
      some e := by simp [between]
  simp only [run, hhere]
  rfl

theorem exists_turns {e : Element} {rest : List Element} {turns : ℕ}
    (hturns : (e :: rest).length ≤ turns) : ∃ more, turns = more + 1 ∧ rest.length ≤ more := by
  rw [List.length_cons] at hturns
  exact ⟨turns - 1, by omega, by omega⟩

/-- The turn after which the loop ends with a failure. -/
theorem run_failed {s s₁ : State ω} {e : Element} {rest : List Element} {turns : ℕ}
    (hturns : (e :: rest).length ≤ turns) {done : List Element} {count : ℕ} {f : Failure}
    (hturn : (between done (e :: rest) count).turn h e s = (.error f, s₁)) :
    run h turns (between done (e :: rest) count) s =
      some ⟨done ++ e :: rest, count, some f, s₁⟩ := by
  obtain ⟨more, rfl, -⟩ := exists_turns hturns
  rw [run_cons, hturn]

/-- The rest of the loop behind a pair. -/
theorem between_pair (done : List Element) (e new stop : Element) (rest : List Element)
    (count : ℕ) : (⟨done ++ e :: new :: stop :: rest, done.length + 3, count⟩ : Loop) =
      between (done ++ [e, new, stop]) rest count := by
  rw [between_append]
  rfl

/-- A turn at a pair of neighbours. -/
theorem turn_insert {s s₁ s₂ : State ω} {e new stop : Element} {marker : Text}
    {r : Except Failure Unit} (hstart : startMarker? s.stash e = some marker)
    (ho : opened h marker s = (.ok new, s₁)) (hstop : isEndMarker s₁.stash stop = true)
    (hn : note h "Inserting new node...".toList s₁ = (r, s₂)) (done rest : List Element)
    (count : ℕ) : (between done (e :: stop :: rest) count).turn h e s =
      (r.map fun _ => between (done ++ [e, new, stop]) rest (count + 1), s₂) := by
  rw [turn_opened hstart ho, ← between_pair]
  simp only [List.getElem?_cons_zero, Option.any_some, hstop, if_true]
  cases r with
  | error f => exact Action.bind_of_error hn
  | ok x => exact Action.bind_of_ok hn

/-- A turn at a pair with an element between its two comments. -/
theorem turn_replace {s s₁ s₂ : State ω} {e new old stop : Element} {marker : Text}
    {r : Except Failure Unit} (hstart : startMarker? s.stash e = some marker)
    (ho : opened h marker s = (.ok new, s₁)) (hold : isEndMarker s₁.stash old = false)
    (hstop : isEndMarker s₁.stash stop = true)
    (hn : note h "Replacing existing node...".toList s₁ = (r, s₂)) (done rest : List Element)
    (count : ℕ) : (between done (e :: old :: stop :: rest) count).turn h e s =
      (r.map fun _ => between (done ++ [e, new, stop]) rest (count + 1), s₂) := by
  rw [turn_opened hstart ho, ← between_pair]
  simp only [List.getElem?_cons_zero, List.getElem?_cons_succ, Option.any_some, hold, hstop,
    set_between, Bool.false_eq_true, if_false, if_true]
  cases r with
  | error f => exact Action.bind_of_error hn
  | ok x => exact Action.bind_of_ok hn

/-- A turn at a start marker without its end marker. -/
theorem turn_unclosed {s s₁ s₂ : State ω} {e new : Element} {rest : List Element} {marker : Text}
    {f : Failure} (hstart : startMarker? s.stash e = some marker)
    (ho : opened h marker s = (.ok new, s₁)) (hu : unclosed h marker s₁ = (.error f, s₂))
    (hnext : rest[0]?.any (isEndMarker s₁.stash) = false)
    (hthird : rest[1]?.any (isEndMarker s₁.stash) = false) (done : List Element) (count : ℕ) :
    (between done (e :: rest) count).turn h e s = (.error f, s₂) := by
  rw [turn_opened hstart ho, hnext, hthird]
  exact Action.bind_of_error hu

/-- Behind what has been done, the loop makes the given progress. -/
def Makes (h : Host ω) (es : List Element) (s : State ω) (p : Progress ω (List Edit)) : Prop :=
  ∀ turns, es.length ≤ turns → ∀ done count, run h turns (between done es count) s =
    some ⟨done ++ Edit.apply p.made es, count + p.count, p.failure, p.state⟩

theorem makes_failed {s s₁ : State ω} {e : Element} {rest : List Element} {f : Failure}
    (hturn : ∀ done count, (between done (e :: rest) count).turn h e s = (.error f, s₁)) :
    Makes h (e :: rest) s (.failed [] f s₁) := fun turns hturns done count => by
  rw [run_failed hturns (hturn done count)]
  simp [Progress.failed, Edit.apply]

/-- **Behind what has been done, the loop does what the scan does.** -/
theorem makes_scan (h : Host ω) (es : List Element) (s : State ω) : Makes h es s (scan h es s) := by
  fun_induction scan h es s with
  | case1 s =>
    intro turns _ done count
    simp [run_nil, Edit.apply]
  | case2 s e rest hplain p ih =>
    intro turns hturns done count
    obtain ⟨more, rfl, hmore⟩ := exists_turns hturns
    rw [run_cons, turn_plain hplain]
    simp only [ih more hmore, Edit.apply, List.append_assoc, List.singleton_append]
    rfl
  | case3 s e rest marker hstart f s₁ hopened =>
    exact makes_failed fun _ _ => turn_failed hstart hopened _
  | case4 s e marker hstart new s₁ hopened f s₂ hunclosed =>
    exact makes_failed fun _ _ => turn_unclosed hstart hopened hunclosed rfl rfl _ _
  | case5 | case9 | case13 => exact absurd ‹unclosed h _ _ = _› unclosed_ne_ok
  | case6 s e marker hstart new s₁ hopened stop rest hstop f s₂ hnote =>
    exact makes_failed fun _ _ => turn_insert hstart hopened hstop hnote _ _ _
  | case7 s e marker hstart new s₁ hopened stop rest hstop _ s₂ hnote ih =>
    intro turns hturns done count
    obtain ⟨more, rfl, hmore⟩ := exists_turns hturns
    rw [run_cons, turn_insert hstart hopened hstop hnote]
    simp only [Except.map, ih more (Nat.le_of_succ_le hmore), Progress.pair, Edit.apply,
      List.append_assoc, List.cons_append, List.nil_append, Nat.add_assoc, Nat.add_comm 1]
  | case8 s e marker hstart new s₁ hopened next hnext f s₂ hunclosed =>
    have hnext' : [next][0]?.any (isEndMarker s₁.stash) = false := Bool.eq_false_iff.2 hnext
    exact makes_failed fun _ _ => turn_unclosed hstart hopened hunclosed hnext' rfl _ _
  | case10 s e marker hstart new s₁ hopened old hold stop rest hstop f s₂ hnote =>
    exact makes_failed fun _ _ =>
      turn_replace hstart hopened (Bool.eq_false_iff.2 hold) hstop hnote _ _ _
  | case11 s e marker hstart new s₁ hopened old hold stop rest hstop _ s₂ hnote ih =>
    intro turns hturns done count
    obtain ⟨more, rfl, hmore⟩ := exists_turns hturns
    rw [run_cons, turn_replace hstart hopened (Bool.eq_false_iff.2 hold) hstop hnote]
    simp only [Except.map, ih more (Nat.le_of_succ_le (Nat.le_of_succ_le hmore)), Progress.pair,
      Edit.apply, List.append_assoc, List.cons_append, List.nil_append, Nat.add_assoc,
      Nat.add_comm 1]
  | case12 s e marker hstart new s₁ hopened next hnext third rest hthird f s₂ hunclosed =>
    have hnext' : (next :: third :: rest)[0]?.any (isEndMarker s₁.stash) = false :=
      Bool.eq_false_iff.2 hnext
    have hthird' : (next :: third :: rest)[1]?.any (isEndMarker s₁.stash) = false :=
      Bool.eq_false_iff.2 hthird
    exact makes_failed fun _ _ => turn_unclosed hstart hopened hunclosed hnext' hthird' _ _

/-- **The loop equals the recursion on the list**, and it takes no more turns than the list has
elements. -/
theorem run_eq_scan (h : Host ω) (es : List Element) (s : State ω) {turns : ℕ}
    (hturns : es.length ≤ turns) : run h turns ⟨es, 0, 0⟩ s =
      some { scan h es s with made := Edit.apply (scan h es s).made es } := by
  have hrun := makes_scan h es s turns hturns [] 0
  rw [Nat.zero_add] at hrun
  exact hrun

end Loop

end MathPage.Pass
