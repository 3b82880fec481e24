import MathPage.Proofs.Text.Pattern

/-!
# Texts that a pattern takes first

A pattern tries its ways in order, and each way goes on with the rest of the match. If the rest of
the match succeeds behind the first way, the others do not matter.

* `Pattern.Takes` – in front of a text the pattern takes a part of it first;
* `Pattern.Stays` – in front of a text the pattern takes nothing of it;
* `Takes.seq`, `takes_alt_right`, `Chain.takes` – sequences, choices and repetitions;
* `Takes.opening?` – the match at the start of a text.
-/

namespace MathPage.Pattern

/-- Behind `a` and in front of `u ++ v` the pattern takes `u` first: if the rest of the match succeeds
behind `u`, this is the match. -/
def Takes (p : Pattern) (a u v : Text) : Prop :=
  ∀ (k : Cursor → Option Cursor) (d : Cursor), k (.between (a ++ u) v) = some d →
    p.run (.between a (u ++ v)) k = some d

/-- In front of a text the pattern takes nothing of it. -/
def Stays (p : Pattern) (v : Text) : Prop := ∀ t, p.Leaves v t → t = v

variable {p q : Pattern} {a u v w : Text}

/-! ### Single steps -/

theorem takes_empty (a v : Text) : Takes .empty a [] v := fun k d hk => by
  rwa [List.append_nil] at hk

theorem takes_one {f : Char → Bool} {c : Char} (hc : f c = true) (a v : Text) :
    Takes (.one f) a [c] v := fun k d hk => by
  have hstep : (Cursor.between a (c :: v)).step? = some (c, .between (a ++ [c]) v) := by
    simp [Cursor.step?, Cursor.between]
  simp only [run, List.singleton_append, hstep, hc, if_true, hk]

theorem takes_char (c : Char) (a v : Text) : Takes (char c) a [c] v := takes_one (beq_self_eq_true c) a v

theorem takes_previous {f : Option Char → Bool} (h : f a.getLast? = true) (v : Text) :
    Takes (.previous f) a [] v := fun k d hk => by
  rw [List.append_nil] at hk
  have hback : (Cursor.between a ([] ++ v)).back.head? = a.getLast? := List.head?_reverse
  simp only [run, hback, h, if_true]
  exact hk

theorem takes_ahead_false (h : ∀ t, ¬ p.Leaves v t) (a : Text) : Takes (.ahead false p) a [] v :=
  fun k d hk => by
    rw [List.append_nil] at hk
    have hnone : p.run (.between a v) some = none := run_eq_none h some
    simp only [run, List.nil_append, hnone]
    exact hk

/-! ### Sequences and choices -/

theorem Takes.seq (hp : Takes p a u (w ++ v)) (hq : Takes q (a ++ u) w v) :
    Takes (.seq p q) a (u ++ w) v := fun k d hk => by
  rw [run_seq, List.append_assoc]
  refine hp _ _ (hq k d ?_)
  rwa [List.append_assoc]

theorem Takes.alt_left (hp : Takes p a u v) (q : Pattern) : Takes (.alt p q) a u v :=
  fun k d hk => run_alt_of_eq_some q (hp k d hk)

theorem takes_alt_right (hp : ∀ t, ¬ p.Leaves (u ++ v) t) (hq : Takes q a u v) :
    Takes (.alt p q) a u v := fun k d hk => by
  rw [run_alt_of_eq_none q (run_eq_none hp k), hq k d hk]

/-! ### Repetitions -/

/-- Several rounds, each of which takes a part. -/
inductive Chain (p : Pattern) : ℕ → Text → Text → Text → Prop where
  | done (a v : Text) : Chain p 0 a [] v
  | more {n : ℕ} {a u w v : Text} (hne : u ≠ []) (hfirst : Takes p a u (w ++ v))
    (hrest : Chain p n (a ++ u) w v) : Chain p (n + 1) a (u ++ w) v

/-- There is no further round where the pattern takes nothing. -/
theorem no_round (hstay : Stays p v) (a : Text) (k : Cursor → Option Cursor) :
    (p.run (.between a v) fun c =>
      if c.pos = (Cursor.between a v).pos then none else k c) = none := by
  cases hrun : p.run (.between a v) fun c =>
      if c.pos = (Cursor.between a v).pos then none else k c with
  | none => rfl
  | some d =>
    obtain ⟨c, ⟨u, hrest, -, hpos⟩, hleaves, hk⟩ := run_sound p hrun
    rw [hstay _ hleaves] at hrest
    obtain rfl : u = [] := List.self_eq_append_left.1 hrest
    rw [if_pos (show c.pos = (Cursor.between a v).pos from hpos)] at hk
    cases hk

/-- **A repetition takes its rounds**, if as many are allowed and no further one is possible. -/
theorem Chain.takes {n lo : ℕ} {hi : Option ℕ} (h : Chain p n a u v) (hlo : lo ≤ n)
    (hhi : ∀ m ∈ hi, n ≤ m) (hend : Stays p v ∨ hi = some n) :
    Takes (.many true lo hi p) a u v := fun k d hk => by
  have hgen : ∀ fuel : Text, u.length < fuel.length →
      rounds true (fun c k => p.run c k) k fuel lo hi (.between a (u ++ v)) = some d := by
    induction h generalizing lo hi with
    | done a v =>
      intro fuel hfuel
      obtain ⟨x, fuel, rfl⟩ := List.exists_cons_of_length_pos hfuel
      obtain rfl : lo = 0 := by omega
      rw [List.append_nil] at hk
      rcases hend with hstay | rfl
      · simp only [rounds, if_true, List.nil_append, hk]
        split
        · rfl
        · rw [no_round hstay]
          rfl
      · simp only [rounds, if_true, List.nil_append, hk]
        rfl
    | @more n a u w v hne hfirst _ ih =>
      intro fuel hfuel
      have hpos := List.length_pos_iff.2 hne
      rw [List.length_append] at hfuel
      obtain ⟨x, fuel, rfl⟩ := List.exists_cons_of_length_pos (Nat.zero_lt_of_lt hfuel)
      have hmore : hi ≠ some 0 := fun h => by simpa using hhi 0 h
      have hnew : (Cursor.between (a ++ u) (w ++ v)).pos ≠ (Cursor.between a (u ++ (w ++ v))).pos := by
        simpa [Cursor.between] using hne
      have hrest := @ih (lo - 1) (hi.map (· - 1)) (by omega)
        (fun m hm => by
          obtain ⟨m', hm', rfl⟩ := Option.map_eq_some_iff.1 hm
          have := hhi m' hm'
          omega)
        (hend.imp id fun h => by rw [h]; rfl) (by rwa [List.append_assoc]) fuel
        (by rw [List.length_cons] at hfuel; omega)
      have hround := hfirst (fun c => if c.pos = (Cursor.between a (u ++ (w ++ v))).pos then none
        else rounds true (fun c k => p.run c k) k fuel (lo - 1) (hi.map (· - 1)) c) d (by
          rw [if_neg hnew, hrest])
      simp only [rounds, if_neg hmore, if_true, List.append_assoc]
      rw [hround]
      rfl
  refine hgen _ ?_
  show u.length < (u ++ v).length + 1
  rw [List.length_append]
  omega

theorem Chain.star {n : ℕ} (h : Chain p n a u v) (hstay : Stays p v) : Takes (star p) a u v :=
  h.takes (Nat.zero_le n) (fun _ hm => by cases hm) (Or.inl hstay)

/-- One round. -/
theorem Takes.chain (h : Takes p a u v) (hne : u ≠ []) : Chain p 1 a u v := by
  have := Chain.more (w := []) hne h (.done (a ++ u) v)
  rwa [List.append_nil] at this

theorem Takes.opt (h : Takes p a u v) (hne : u ≠ []) : Takes (opt p) a u v :=
  (h.chain hne).takes (Nat.zero_le 1) (fun _ hm => (Option.some.inj hm).le) (Or.inr rfl)

theorem takes_opt_nil (hstay : Stays p v) (a : Text) : Takes (Pattern.opt p) a [] v :=
  (Chain.done a v).takes le_rfl (fun _ _ => Nat.zero_le _) (Or.inl hstay)

theorem takes_star_nil (hstay : Stays p v) (a : Text) : Takes (star p) a [] v :=
  (Chain.done a v).star hstay

/-- A round for each character. -/
theorem chain_chars (hu : ∀ c ∈ u, ∀ a v, Takes p a [c] v) (a v : Text) :
    Chain p u.length a u v := by
  induction u generalizing a with
  | nil => exact .done a v
  | cons c u ih =>
    exact .more (u := [c]) (List.cons_ne_nil c []) (hu c List.mem_cons_self a _)
      (ih (fun x hx => hu x (List.mem_cons_of_mem c hx)) _)

/-! ### Where a pattern takes nothing -/

theorem stays_of_not_leaves (h : ∀ t, ¬ p.Leaves v t) : Stays p v := fun t ht => absurd ht (h t)

theorem not_leaves_one {f : Char → Bool} (h : ∀ c ∈ v.head?, f c = false) (t : Text) :
    ¬ (one f).Leaves v t := by
  rintro ⟨c, rfl, hc⟩
  rw [h c rfl] at hc
  cases hc

theorem stays_one {f : Char → Bool} (h : ∀ c ∈ v.head?, f c = false) : Stays (.one f) v :=
  stays_of_not_leaves (not_leaves_one h)

theorem Stays.star (h : Stays p v) : Stays (star p) v := by
  rintro t ⟨n, -, hrounds⟩
  induction n generalizing t with
  | zero =>
    cases hrounds
    rfl
  | succ n ih =>
    cases hrounds with
    | more hfirst hrest =>
      rw [h _ hfirst] at hrest
      exact ih t hrest

theorem Stays.seq (hp : Stays p v) (hq : Stays q v) : Stays (.seq p q) v := by
  rintro t ⟨u, hu, ht⟩
  rw [hp u hu] at ht
  exact hq t ht

theorem Stays.alt (hp : Stays p v) (hq : Stays q v) : Stays (.alt p q) v :=
  fun t ht => ht.elim (hp t) (hq t)

/-- A run of characters of a class in front of another one. -/
theorem takes_star_one {f : Char → Bool} (hu : ∀ c ∈ u, f c = true)
    (hv : ∀ c ∈ v.head?, f c = false) (a : Text) : Takes (star (.one f)) a u v :=
  (chain_chars (fun c hc => takes_one (hu c hc)) a v).star (stays_one hv)

/-! ### Matches at the start of a text -/

/-- A pattern that takes a part of a text first matches it at the start of the text. -/
theorem Takes.opening? (h : Takes p [] u v) : p.opening? (u ++ v) = some ⟨[], u, v, 0, []⟩ := by
  have hrun : p.run (.between [] (u ++ v)) some = some (.between u v) := h some _ rfl
  have hstart : Cursor.start (u ++ v) = .between [] (u ++ v) := rfl
  rw [Pattern.opening?, hstart, at?, hrun]
  simp [toMatch, Cursor.between]

end MathPage.Pattern
