import MathPage.Markdown.Inline.Span
import MathPage.Proofs.Markdown.Inline.Nodes
import MathPage.Proofs.Markdown.Inline.Rule

/-!
# Protected characters

A backslash in front of a character that could be markup protects it: both give way to a placeholder.

* `cover`, `covered` – a text with such placeholders, and the characters that they stand for;
* `escape_eq` – the rule for backslashes covers a text;
* `read_source_cover` – with its placeholders written out, a covered text is the text as it was.
-/

namespace MathPage.Markdown.Inline

variable {d : Dialect}

/-- A text with a placeholder for every protected character and the backslash in front of it; `k`
nodes were taken out before. -/
def cover (d : Dialect) : ℕ → Text → Text
  | _, [] => []
  | _, [c] => [c]
  | k, c :: c' :: t =>
    if c = '\\' then
      if c' ∈ protectable d then Nodes.placeholder k ++ cover d (k + 1) t
      else c :: c' :: cover d k t
    else c :: cover d k (c' :: t)

/-- The protected characters of a text. -/
def covered (d : Dialect) : Text → List Char
  | [] => []
  | [_] => []
  | c :: c' :: t =>
    if c = '\\' then
      if c' ∈ protectable d then c' :: covered d t else covered d t
    else covered d (c' :: t)

/-- The node for a protected character. -/
def escapedNode (c : Char) : Node := .text (Escaped.write c)

/-! ### The rule for backslashes -/

open Pattern in
/-- The pattern of the rule for backslashes. -/
def backslash : Pattern := .seq (char '\\') (.capture 1 any)

theorem run_backslash_eq_none {c : Cursor} (h : ∀ x t, c.rest ≠ '\\' :: x :: t)
    (k : Cursor → Option Cursor) : backslash.run c k = none := by
  refine Pattern.run_eq_none (fun t' hleaves => ?_) k
  obtain ⟨u, ⟨x, hrest, hx⟩, y, rfl, -⟩ := hleaves
  rw [eq_of_beq hx] at hrest
  exact h y t' hrest

/-- The first backslash with a character behind it is found. -/
theorem findFrom?_backslash {a u : Text} (hu : '\\' ∉ u) (c : Char) (v : Text) :
    backslash.findFrom? a.length (a ++ (u ++ '\\' :: c :: v)) =
      some ⟨a ++ u, ['\\', c], v, a.length + u.length, [(1, c :: v, 1)]⟩ := by
  have hrun : backslash.run (.between (a ++ u) ('\\' :: c :: v)) some =
      some ⟨c :: '\\' :: (a ++ u).reverse, v, (a ++ u).length + 2, [(1, c :: v, 1)]⟩ := by
    simp [backslash, Pattern.run, Pattern.char, Pattern.any, Cursor.between, Cursor.step?]
  rw [Pattern.findFrom?_eq_some (fun u₁ x u₂ hsplit => ?_) hrun]
  · simp [Pattern.toMatch, Cursor.between]
  · refine run_backslash_eq_none (fun y t hrest => hu ?_) some
    obtain ⟨rfl, -⟩ := List.cons.inj hrest
    rw [hsplit]
    exact List.mem_append_right _ List.mem_cons_self

theorem findFrom?_backslash_eq_none {a u : Text} (hu : ∀ v x w, u ≠ v ++ '\\' :: x :: w) :
    backslash.findFrom? a.length (a ++ u) = none :=
  Pattern.findFrom?_eq_none fun v w hsplit =>
    run_backslash_eq_none (fun x t hrest => hu v x t (by rw [hsplit, ← hrest]; rfl)) some

/-- A backslash that ends a text protects nothing. -/
theorem not_backslash_inside {u : Text} (hu : '\\' ∉ u) (c : Char) (v : Text) (x : Char)
    (w : Text) : u ++ [c] ≠ v ++ '\\' :: x :: w := by
  intro h
  obtain ⟨w', y, hw⟩ : ∃ w' y, x :: w = w' ++ [y] :=
    ⟨_, _, (List.dropLast_append_getLast (List.cons_ne_nil x w)).symm⟩
  have hsplit : u ++ [c] = (v ++ '\\' :: w') ++ [y] := by rw [h, hw]; simp
  obtain ⟨rfl, -⟩ := List.append_inj' hsplit rfl
  exact hu (List.mem_append_right _ List.mem_cons_self)

/-- What the rule makes of a backslash. -/
def escapeVerdict (d : Dialect) (s : State) (m : Match) : Verdict :=
  match m.group 1 with
  | [c] =>
    if (protectable d).contains c then .accept (.node (.text (Escaped.write c)) m.before m.after) s
    else .accept (.skip m.stop) s
  | _ => .reject

/-- The state with the nodes for some protected characters. -/
def State.withEscaped (s : State) (cs : List Char) : State :=
  { s with nodes := s.nodes ++ cs.map escapedNode }

/-- The rule covers what it has not read yet: what stands behind `a`, of which `u` holds no
backslash. -/
theorem exhaust_backslash (inner : Reader) (k : ℕ) (b : Text) {fuel : ℕ} (hfuel : b.length < fuel)
    {a u : Text} (hu : '\\' ∉ u) {s : State} (hs : s.nodes.length = k) :
    exhaust backslash (escapeVerdict d) inner fuel a.length s (a ++ (u ++ b)) =
      (a ++ (u ++ cover d k b), s.withEscaped (covered d b)) := by
  induction k, b using cover.induct (d := d) generalizing fuel a u s with
  | case1 k =>
    have hnone := findFrom?_backslash_eq_none (a := a) (u := u ++ []) fun v x w h => hu (by
      rw [List.append_nil] at h
      exact h ▸ List.mem_append_right _ List.mem_cons_self)
    rw [exhaust_of_findFrom?_eq_none hnone]
    simp [cover, covered, State.withEscaped]
  | case2 k c =>
    have hnone := findFrom?_backslash_eq_none (a := a) (not_backslash_inside hu c)
    rw [exhaust_of_findFrom?_eq_none hnone]
    simp [cover, covered, State.withEscaped]
  | case3 k c t hc ih =>
    subst hs
    obtain ⟨fuel, rfl⟩ := Nat.exists_eq_succ_of_ne_zero (Nat.ne_zero_of_lt hfuel)
    have hverdict : escapeVerdict d s ⟨a ++ u, ['\\', c], t, a.length + u.length, [(1, c :: t, 1)]⟩ =
        .accept (.node (escapedNode c) (a ++ u) t) s := by
      simp [escapeVerdict, Match.group, Match.group?, hc, escapedNode]
    have hlength : t.length < fuel := by
      simp only [List.length_cons] at hfuel
      omega
    have hrest := ih hlength (a := a ++ u ++ Nodes.placeholder s.nodes.length) (u := []) List.not_mem_nil
      (s := s.withEscaped [c]) (by simp [State.withEscaped])
    simp only [exhaust, search, findFrom?_backslash hu, hverdict]
    rw [cover, if_pos rfl, if_pos hc, covered, if_pos rfl, if_pos hc]
    simpa [place, escapedNode, Nodes.store, State.withEscaped, Nat.add_assoc] using hrest
  | case4 k c t hc ih =>
    obtain ⟨fuel, rfl⟩ := Nat.exists_eq_succ_of_ne_zero (Nat.ne_zero_of_lt hfuel)
    have hverdict : escapeVerdict d s ⟨a ++ u, ['\\', c], t, a.length + u.length, [(1, c :: t, 1)]⟩ =
        .accept (.skip (a.length + u.length + 2)) s := by
      simp [escapeVerdict, Match.group, Match.group?, Match.stop, hc]
    have hlength : t.length < fuel := by
      simp only [List.length_cons] at hfuel
      omega
    have hrest := ih hlength (a := a ++ u ++ ['\\', c]) (u := []) List.not_mem_nil hs
    simp only [exhaust, search, findFrom?_backslash hu, hverdict]
    rw [cover, if_pos rfl, if_neg hc, covered, if_pos rfl, if_neg hc]
    have hstop : max (a.length + u.length + 2) (a.length + 1) = a.length + u.length + 2 := by omega
    simpa [hstop, Nat.add_assoc] using hrest
  | case5 k c c' t hc ih =>
    have hlength : (c' :: t).length < fuel := by
      simp only [List.length_cons] at hfuel ⊢
      omega
    have hrest := ih hlength (a := a) (u := u ++ [c]) (by simp [hu, Ne.symm hc]) hs
    rw [cover, if_neg hc, covered, if_neg hc]
    simpa using hrest

/-- **The rule for backslashes covers a text.** -/
theorem escape_eq (inner : Reader) (s : State) (t : Text) :
    escape d inner s t = (cover d s.nodes.length t, s.withEscaped (covered d t)) :=
  exhaust_backslash inner _ t (Nat.lt_succ_self _) (a := []) (u := []) List.not_mem_nil rfl

/-! ### Covered texts -/

theorem cover_cons {c : Char} (hc : c ≠ '\\') (k : ℕ) (t : Text) :
    cover d k (c :: t) = c :: cover d k t := by
  rcases t with _ | ⟨c', t⟩
  · rfl
  · rw [cover, if_neg hc]

theorem cover_append_of_not_mem {u : Text} (hu : '\\' ∉ u) (k : ℕ) (t : Text) :
    cover d k (u ++ t) = u ++ cover d k t := by
  induction u with
  | nil => rfl
  | cons c u ih =>
    rw [List.cons_append, cover_cons (Ne.symm (List.ne_of_not_mem_cons hu)),
      ih (List.not_mem_of_not_mem_cons hu), List.cons_append]

theorem cover_eq_self {t : Text} (ht : '\\' ∉ t) (k : ℕ) : cover d k t = t := by
  have h := cover_append_of_not_mem (d := d) ht k []
  rwa [List.append_nil, cover, List.append_nil] at h

theorem covered_eq_nil {t : Text} (ht : '\\' ∉ t) : covered d t = [] := by
  induction t with
  | nil => rfl
  | cons c t ih =>
    rcases t with _ | ⟨c', t⟩
    · rfl
    · rw [covered, if_neg (Ne.symm (List.ne_of_not_mem_cons ht)),
        ih (List.not_mem_of_not_mem_cons ht)]

/-- What stands behind another character than a backslash, and holds none, stays as it is. -/
theorem cover_append {q : Char} (hq : q ≠ '\\') {v : Text} (hv : '\\' ∉ v) (k : ℕ) (t : Text) :
    cover d k (t ++ q :: v) = cover d k (t ++ [q]) ++ v := by
  have hend : ∀ k, cover d k (q :: v) = cover d k [q] ++ v := fun k => by
    rw [cover_cons hq, cover_eq_self hv]
    rfl
  induction k, t using cover.induct (d := d) with
  | case1 k => exact hend k
  | case2 k c =>
    by_cases hc : c = '\\'
    · simp only [List.cons_append, List.nil_append, cover, if_pos hc, cover_eq_self hv]
      split
      · rw [List.append_nil]
      · rfl
    · rw [List.cons_append, List.cons_append, List.nil_append, cover_cons hc, cover_cons hc, hend]
      rfl
  | case3 k c t hc ih =>
    simp only [List.cons_append, cover, if_true, if_pos hc]
    rw [ih, List.append_assoc]
  | case4 k c t hc ih =>
    simp only [List.cons_append, cover, if_true, if_neg hc]
    rw [ih]
  | case5 k c c' t hc ih =>
    simp only [List.cons_append, cover, if_neg hc] at ih ⊢
    rw [ih]

/-- A covered text holds characters of the text and of placeholders. -/
theorem forall_mem_cover {P : Char → Prop} {t : Text} (ht : ∀ c ∈ t, P c)
    (hmark : ∀ j, ∀ c ∈ Nodes.placeholder j, P c) (k : ℕ) : ∀ c ∈ cover d k t, P c := by
  induction k, t using cover.induct (d := d) with
  | case1 k => exact ht
  | case2 k c => exact ht
  | case3 k c t hc ih =>
    rw [cover, if_pos rfl, if_pos hc]
    intro x hx
    rcases List.mem_append.1 hx with hx | hx
    · exact hmark k x hx
    · exact ih (fun y hy => ht y (List.mem_cons_of_mem _ (List.mem_cons_of_mem _ hy))) x hx
  | case4 k c t hc ih =>
    rw [cover, if_pos rfl, if_neg hc]
    intro x hx
    rcases List.mem_cons.1 hx with rfl | hx
    · exact ht _ List.mem_cons_self
    · rcases List.mem_cons.1 hx with rfl | hx
      · exact ht _ (List.mem_cons_of_mem _ List.mem_cons_self)
      · exact ih (fun y hy => ht y (List.mem_cons_of_mem _ (List.mem_cons_of_mem _ hy))) x hx
  | case5 k c c' t hc ih =>
    rw [cover, if_neg hc]
    intro x hx
    rcases List.mem_cons.1 hx with rfl | hx
    · exact ht _ List.mem_cons_self
    · exact ih (fun y hy => ht y (List.mem_cons_of_mem _ hy)) x hx

theorem not_mem_cover {c : Char} {t : Text} (ht : c ∉ t) (hmark : ∀ j, c ∉ Nodes.placeholder j)
    (k : ℕ) : c ∉ cover d k t := fun hmem =>
  forall_mem_cover (P := fun x => x ≠ c) (fun _ hx hxc => ht (hxc ▸ hx))
    (fun j _ hx hxc => hmark j (hxc ▸ hx)) k c hmem rfl

theorem head?_placeholder_append (n : ℕ) (t : Text) :
    (Nodes.placeholder n ++ t).head? = some Stash.opening := rfl

theorem head?_cover (k : ℕ) (t : Text) :
    (cover d k t).head? = t.head? ∨ (cover d k t).head? = some Stash.opening := by
  rcases t with _ | ⟨c, _ | ⟨c', t⟩⟩
  · exact Or.inl rfl
  · exact Or.inl rfl
  · rw [cover]
    split
    · split
      · exact Or.inr (head?_placeholder_append k _)
      · exact Or.inl rfl
    · exact Or.inl rfl

/-- Characters that no placeholder holds stay apart. -/
theorem apart_cover {a b : Char} {t : Text} (h : Text.Apart a b t)
    (ha : ∀ j, a ∉ Nodes.placeholder j) (hb : b ≠ Stash.opening) (k : ℕ) :
    Text.Apart a b (cover d k t) := by
  have hhead : ∀ {k t}, t.head? ≠ some b → (cover d k t).head? ≠ some b := fun {k t} ht hcover => by
    rcases head?_cover (d := d) k t with heq | heq
    · exact ht (heq ▸ hcover)
    · exact hb (Option.some.inj (hcover.symm.trans heq))
  induction k, t using cover.induct (d := d) with
  | case1 k => exact h
  | case2 k c => exact h
  | case3 k c t hc ih =>
    rw [cover, if_pos rfl, if_pos hc]
    have hrest := ih (Text.apart_cons.1 (Text.apart_cons.1 h).2).2
    exact (Text.apart_of_not_mem (ha k)).append hrest
      (Or.inl fun hlast => ha k (List.mem_of_getLast? hlast))
  | case4 k c t hc ih =>
    rw [cover, if_pos rfl, if_neg hc]
    obtain ⟨hfirst, hrest⟩ := Text.apart_cons.1 h
    obtain ⟨hsecond, hrest⟩ := Text.apart_cons.1 hrest
    exact Text.apart_cons.2 ⟨hfirst, Text.apart_cons.2 ⟨fun hca => hhead (hsecond hca), ih hrest⟩⟩
  | case5 k c c' t hc ih =>
    rw [cover, if_neg hc]
    obtain ⟨hfirst, hrest⟩ := Text.apart_cons.1 h
    exact Text.apart_cons.2 ⟨fun hca => hhead (hfirst hca), ih hrest⟩

/-- **With its placeholders written out, a covered text is the text as it was.** -/
theorem read_source_cover {ns : Nodes} {k : ℕ} {t : Text} (ht : Stash.opening ∉ t)
    (hns : ∀ i c, (covered d t)[i]? = some c → ns[k + i]? = some (escapedNode c)) :
    Escaped.read (ns.source (cover d k t)) = t := by
  have hbackslash : ('\\' : Char) ≠ Stash.opening := by decide
  induction k, t using cover.induct (d := d) with
  | case1 k => rfl
  | case2 k c =>
    rw [cover, Nodes.source_cons (Ne.symm (List.ne_of_not_mem_cons ht)),
      Escaped.read_cons (Ne.symm (List.ne_of_not_mem_cons ht))]
    rfl
  | case3 k c t hc ih =>
    rw [covered, if_pos rfl, if_pos hc] at hns
    have hnode : ns[k]? = some (.text (Escaped.write c)) := hns 0 c rfl
    rw [cover, if_pos rfl, if_pos hc, Nodes.source_placeholder hnode, List.cons_append,
      Escaped.read_cons hbackslash, Escaped.read_write,
      ih (fun h => ht (List.mem_cons_of_mem _ (List.mem_cons_of_mem _ h))) fun i x hx => ?_]
    rw [Nat.add_assoc, Nat.add_comm 1]
    exact hns (i + 1) x hx
  | case4 k c t hc ih =>
    rw [covered, if_pos rfl, if_neg hc] at hns
    have hc' := List.ne_of_not_mem_cons (List.not_mem_of_not_mem_cons ht)
    rw [cover, if_pos rfl, if_neg hc, Nodes.source_cons hbackslash, Nodes.source_cons hc'.symm,
      Escaped.read_cons hbackslash, Escaped.read_cons hc'.symm,
      ih (fun h => ht (List.mem_cons_of_mem _ (List.mem_cons_of_mem _ h))) hns]
  | case5 k c c' t hc ih =>
    rw [covered, if_neg hc] at hns
    have hc' := List.ne_of_not_mem_cons ht
    rw [cover, if_neg hc, Nodes.source_cons hc'.symm, Escaped.read_cons hc'.symm,
      ih (List.not_mem_of_not_mem_cons ht) hns]

end MathPage.Markdown.Inline
