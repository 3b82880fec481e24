import Mathlib.Data.List.DropRight
import Mathlib.Data.List.TakeWhile
import Mathlib.Tactic
import MathPage.Text.Class

/-!
# Openings, ends and numerals of texts

* `decidableForallMem` – a property of all characters of a text is decided along it;
* `after?_append`, `eq_append_of_after?` – what an opening leaves;
* `cutAt?_append`, `cutAt?_singleton`, `append_cons_inj` – where a text is cut;
* `Apart` – two characters that do not stand next to each other;
* `trimRight_append`, `getLast?_trimRight` – what trimming at the end takes away and leaves;
* `exists_eq_append_strip`, `strip_append`, `strip_eq_self` – what stripping takes away;
* `ofDecimal?_decimal`, `ofDecimal?_eq_some_iff_decimal` – a number is read as it was written, and
  what is read as it is so written, perhaps with zeros in front.
-/

namespace MathPage.Text

/-- What holds of every character of a text is decided along the text, ahead of any instance
that decides it over all characters. -/
instance (priority := 2000) decidableForallMem (t : Text) (p : Char → Prop) [DecidablePred p] :
    Decidable (∀ c ∈ t, p c) :=
  List.decidableBAll p t

/-! ### Openings -/

@[simp] theorem after?_nil (t : Text) : after? [] t = some t := by
  cases t <;> rfl

@[simp] theorem after?_append (p t : Text) : after? p (p ++ t) = some t := by
  induction p with
  | nil => simp
  | cons a p ih => simpa [after?] using ih

theorem eq_append_of_after? {p t r : Text} (h : after? p t = some r) : t = p ++ r := by
  induction p generalizing t with
  | nil => simpa using h
  | cons a p ih =>
    cases t with
    | nil => simp [after?] at h
    | cons b t =>
      by_cases hab : a = b
      · subst hab
        rw [after?, if_pos rfl] at h
        rw [ih h, List.cons_append]
      · simp [after?, hab] at h

theorem after?_eq_some_iff {p t r : Text} : after? p t = some r ↔ t = p ++ r :=
  ⟨eq_append_of_after?, fun h => by rw [h, after?_append]⟩

/-! ### Occurrences -/

/-- A cut takes the text apart. -/
theorem eq_append_of_cutAt? {p t a b : Text} (h : cutAt? p t = some (a, b)) :
    t = a ++ (p ++ b) := by
  induction t generalizing a with
  | nil =>
    obtain ⟨r, hr, heq⟩ := Option.map_eq_some_iff.1 h
    obtain ⟨rfl, rfl⟩ := Prod.mk.inj heq
    rw [List.nil_append]
    exact eq_append_of_after? hr
  | cons c t ih =>
    simp only [cutAt?] at h
    split at h
    · rename_i rest hrest
      obtain ⟨rfl, rfl⟩ := Prod.mk.inj (Option.some.inj h)
      rw [List.nil_append]
      exact eq_append_of_after? hrest
    · obtain ⟨⟨a', b'⟩, hcut, heq⟩ := Option.map_eq_some_iff.1 h
      obtain ⟨rfl, rfl⟩ := Prod.mk.inj heq
      rw [ih hcut, List.cons_append]

/-- A cut is not moved by what is added at the end. -/
theorem cutAt?_append {p t a b : Text} (h : cutAt? p t = some (a, b)) (u : Text) :
    cutAt? p (t ++ u) = some (a, b ++ u) := by
  induction t generalizing a with
  | nil =>
    obtain ⟨rfl, hpb⟩ := List.append_eq_nil_iff.1 (eq_append_of_cutAt? h).symm
    obtain ⟨rfl, rfl⟩ := List.append_eq_nil_iff.1 hpb
    cases u <;> rfl
  | cons c t ih =>
    simp only [cutAt?] at h
    split at h
    · rename_i rest hrest
      obtain ⟨rfl, rfl⟩ := Prod.mk.inj (Option.some.inj h)
      have hafter : after? p (c :: (t ++ u)) = some (rest ++ u) :=
        after?_eq_some_iff.2 (by
          rw [← List.cons_append, eq_append_of_after? hrest, List.append_assoc])
      simp only [List.cons_append, cutAt?, hafter]
    · rename_i hnone
      obtain ⟨⟨a', b'⟩, hcut, heq⟩ := Option.map_eq_some_iff.1 h
      obtain ⟨rfl, rfl⟩ := Prod.mk.inj heq
      -- what is found later is as long as what would be found here
      have hafter : after? p (c :: (t ++ u)) = none := by
        rw [Option.eq_none_iff_forall_ne_some]
        intro r hr
        have hlength := congrArg List.length (eq_append_of_cutAt? hcut)
        simp only [List.length_append] at hlength
        have hopens : p <+: c :: t := List.prefix_of_prefix_length_le
          (⟨r, (eq_append_of_after? hr).symm⟩ : p <+: c :: (t ++ u))
          (List.prefix_append (c :: t) u) (by rw [List.length_cons]; omega)
        obtain ⟨r', hr'⟩ := hopens
        rw [← hr', after?_append] at hnone
        cases hnone
      simp only [List.cons_append, cutAt?, hafter, ih hcut, Option.map_some]

/-- A text is cut at the first occurrence of a character. -/
theorem cutAt?_singleton {c : Char} {a : Text} (h : c ∉ a) (b : Text) :
    cutAt? [c] (a ++ c :: b) = some (a, b) := by
  induction a with
  | nil => simp [cutAt?, after?]
  | cons x a ih =>
    have hx : after? [c] (x :: (a ++ c :: b)) = none := if_neg (List.ne_of_not_mem_cons h)
    simp only [List.cons_append, cutAt?, hx, ih (List.not_mem_of_not_mem_cons h), Option.map_some]

/-- Two equal texts stand equal in front of the first occurrence of a character and behind it. -/
theorem append_cons_inj {c : Char} {a a' b b' : Text} (ha : c ∉ a) (ha' : c ∉ a')
    (h : a ++ c :: b = a' ++ c :: b') : a = a' ∧ b = b' := by
  have hcuts := congrArg (cutAt? [c]) h
  rw [cutAt?_singleton ha, cutAt?_singleton ha'] at hcuts
  exact Prod.mk.inj (Option.some.inj hcuts)

theorem occurs_append (a p b : Text) : occurs p (a ++ (p ++ b)) = true := by
  induction a with
  | nil =>
    rcases hpb : p ++ b with _ | ⟨x, t⟩
    · obtain ⟨rfl, -⟩ := List.append_eq_nil_iff.1 hpb
      rfl
    · have hafter : after? p (x :: t) = some b := hpb ▸ after?_append p b
      simp [occurs, cutAt?, hafter]
  | cons x a ih =>
    simp only [occurs, List.cons_append, cutAt?] at ih ⊢
    split
    · rfl
    · rwa [Option.isSome_map]

/-- Recursion with fuel for every character gives what more fuel gives. -/
theorem eq_of_fuel {α : Type} {f : ℕ → Text → α} (hnil : ∀ n, f n [] = f 0 [])
    (hcons : ∀ n m c t, (∀ r : Text, r.length < (c :: t).length → f n r = f m r) →
      f (n + 1) (c :: t) = f (m + 1) (c :: t))
    {n m : ℕ} {t : Text} (hn : t.length ≤ n) (hm : t.length ≤ m) : f n t = f m t := by
  induction n generalizing m t with
  | zero =>
    obtain rfl := List.eq_nil_of_length_eq_zero (Nat.le_zero.1 hn)
    exact (hnil m).symm
  | succ n ih =>
    rcases t with _ | ⟨c, t⟩
    · rw [hnil, hnil m]
    · rcases m with _ | m
      · exact absurd hm (Nat.not_succ_le_zero _)
      · rw [List.length_cons, Nat.succ_le_succ_iff] at hn hm
        refine hcons n m c t fun r hr => ih ?_ ?_
        · exact (Nat.le_of_lt_succ hr).trans hn
        · exact (Nat.le_of_lt_succ hr).trans hm

/-- A suffix that begins with a character begins behind a text without it. -/
theorem suffix_of_suffix_append {c : Char} {a b v : Text} (h : c :: v <:+ a ++ b) (ha : c ∉ a) :
    c :: v <:+ b := by
  induction a with
  | nil => exact h
  | cons x a ih =>
    rcases List.suffix_cons_iff.1 h with heq | hrest
    · exact absurd (List.cons.inj heq).1 (List.ne_of_not_mem_cons ha)
    · exact ih hrest (List.not_mem_of_not_mem_cons ha)

/-! ### Neighbours -/

/-- Nowhere in the text does the first character stand directly in front of the second. -/
def Apart (a b : Char) (t : Text) : Prop := t.IsChain fun x y => ¬ (x = a ∧ y = b)

instance (a b : Char) (t : Text) : Decidable (Apart a b t) :=
  inferInstanceAs (Decidable (t.IsChain _))

theorem apart_cons {a b c : Char} {t : Text} :
    Apart a b (c :: t) ↔ (c = a → t.head? ≠ some b) ∧ Apart a b t := by
  unfold Apart
  rcases t with _ | ⟨x, t⟩
  · simp
  · rw [List.isChain_cons_cons]
    simp only [List.head?_cons, ne_eq, Option.some.injEq, not_and]

theorem Apart.not_infix {a b : Char} {t u v : Text} (h : Apart a b t) : t ≠ u ++ a :: b :: v := by
  rintro rfl
  have hmid := (List.isChain_append.1 h).2.1
  exact (List.isChain_cons_cons.1 hmid).1 ⟨rfl, rfl⟩

/-- No part of such a text begins with the two characters, whatever follows the text. -/
theorem Apart.ne_cons_cons {a b x : Char} {t u v w r : Text} (h : Apart a b t)
    (hlast : t.getLast? ≠ some a) (ht : t = u ++ x :: v) : x :: v ++ w ≠ a :: b :: r := by
  intro heq
  obtain ⟨rfl, hrest⟩ := List.cons.inj heq
  rcases v with _ | ⟨y, v⟩
  · exact hlast (by rw [ht]; simp)
  · obtain ⟨rfl, -⟩ := List.cons.inj hrest
    exact h.not_infix ht

theorem apart_of_not_mem {a b : Char} {t : Text} (h : a ∉ t) : Apart a b t :=
  List.Pairwise.isChain (List.pairwise_of_forall_mem_list fun _ hx _ _ hab => h (hab.1 ▸ hx))

/-- Texts next to each other, of which the first ends in another character or the second begins with
another one. -/
theorem Apart.append {a b : Char} {t u : Text} (ht : Apart a b t) (hu : Apart a b u)
    (h : t.getLast? ≠ some a ∨ u.head? ≠ some b) : Apart a b (t ++ u) :=
  List.isChain_append.2 ⟨ht, hu, fun x hx y hy hab => by
    rcases h with h | h
    · exact h (hab.1 ▸ hx)
    · exact h (hab.2 ▸ hy)⟩

/-! ### Stripping -/

/-- Trimming at the end takes characters of the class away and nothing else. -/
theorem trimRight_append (p : Char → Bool) (t : Text) :
    ∃ b : Text, (∀ c ∈ b, p c) ∧ t = trimRight p t ++ b :=
  ⟨List.rtakeWhile p t, fun _ hc => List.mem_rtakeWhile_imp hc,
    List.rdropWhile_append_rtakeWhile.symm⟩

/-- Trimming at the end leaves no character of the class there. -/
theorem getLast?_trimRight {p : Char → Bool} {c : Char} (hc : p c = true) (t : Text) :
    (trimRight p t).getLast? ≠ some c := by
  show (List.rdropWhile p t).getLast? ≠ some c
  intro hlast
  have hne : List.rdropWhile p t ≠ [] := by
    intro hnil
    simp [hnil] at hlast
  refine List.rdropWhile_last_not p t hne ?_
  rwa [List.getLast_of_getLast?_eq_some hlast]

/-- Stripping takes blanks away at both ends and nothing else. -/
theorem exists_eq_append_strip (t : Text) :
    ∃ a b : Text, (∀ c ∈ a, isBlank c) ∧ (∀ c ∈ b, isBlank c) ∧ t = a ++ strip t ++ b := by
  have hl := List.takeWhile_append_dropWhile (p := isBlank) (l := t)
  obtain ⟨b, hb, hr⟩ := trimRight_append isBlank (trimLeft isBlank t)
  refine ⟨t.takeWhile isBlank, b, fun c hc => List.mem_takeWhile_imp hc, hb, ?_⟩
  rw [List.append_assoc, show strip t ++ b = t.dropWhile isBlank from hr.symm, hl]

/-- Stripping takes nothing else away if there are more blanks around a text. -/
theorem strip_append {a b : Text} (ha : ∀ c ∈ a, isBlank c) (hb : ∀ c ∈ b, isBlank c) (t : Text) :
    strip (a ++ t ++ b) = strip t := by
  have hleft : (a ++ t ++ b).dropWhile isBlank = (t ++ b).dropWhile isBlank := by
    rw [List.append_assoc, List.dropWhile_append_of_pos ha]
  have hb' : ∀ c ∈ b.reverse, isBlank c := fun c hc => hb c (List.mem_reverse.1 hc)
  have hblank : b.dropWhile isBlank = [] := List.dropWhile_eq_nil_iff.2 hb
  simp only [strip, trim, trimLeft, trimRight, hleft, List.dropWhile_append]
  split
  · rename_i hnil
    rw [hblank, List.isEmpty_iff.1 hnil]
  · rw [List.reverse_append, List.dropWhile_append_of_pos hb']

/-- A text with a character that is not of a class at either end is not changed by trimming. -/
theorem trim_eq_self {p : Char → Bool} {c d : Char} {t : Text} (hc : p c = false)
    (hd : p d = false) : trim p (c :: t ++ [d]) = c :: t ++ [d] := by
  simp [trim, trimLeft, trimRight, hc, hd]

/-- A text with a character that is no blank at either end is not changed by stripping. -/
theorem strip_eq_self {c d : Char} {t : Text} (hc : isBlank c = false) (hd : isBlank d = false) :
    strip (c :: t ++ [d]) = c :: t ++ [d] := trim_eq_self hc hd

/-! ### Numerals -/

theorem isDigit_digitChar {n : ℕ} (h : n < 10) : isDigit (Nat.digitChar n) = true := by
  interval_cases n <;> decide

theorem digitChar_toNat {n : ℕ} (h : n < 10) : (Nat.digitChar n).toNat - '0'.toNat = n := by
  interval_cases n <;> decide

theorem ofDigits_append (n : ℕ) (t u : Text) :
    ofDigits n (t ++ u) = ofDigits (ofDigits n t) u := List.foldl_append

theorem ofDigits_digitChar (n : ℕ) {m : ℕ} (h : m < 10) :
    ofDigits n [Nat.digitChar m] = n * 10 + m := by
  simp only [ofDigits, List.foldl_cons, List.foldl_nil, digitChar_toNat h]

theorem decimal_of_lt {n : ℕ} (h : n < 10) : decimal n = [Nat.digitChar n] :=
  Nat.toDigits_of_lt_base h

theorem decimal_of_le {n : ℕ} (h : 10 ≤ n) :
    decimal n = decimal (n / 10) ++ [Nat.digitChar (n % 10)] :=
  Nat.toDigits_of_base_le (by decide) h

theorem decimal_ne_nil (n : ℕ) : decimal n ≠ [] := Nat.toDigits_ne_nil

theorem ofDigits_decimal (n : ℕ) : ofDigits 0 (decimal n) = n := by
  induction n using Nat.strongRecOn with
  | ind n ih =>
    rcases Nat.lt_or_ge n 10 with h | h
    · rw [decimal_of_lt h, ofDigits_digitChar 0 h]
      omega
    · rw [decimal_of_le h, ofDigits_append, ih (n / 10) (by omega),
        ofDigits_digitChar _ (Nat.mod_lt n (by decide))]
      omega

theorem isDigit_of_mem_decimal {n : ℕ} {c : Char} (h : c ∈ decimal n) : isDigit c = true := by
  induction n using Nat.strongRecOn with
  | ind n ih =>
    rcases Nat.lt_or_ge n 10 with hn | hn
    · rw [decimal_of_lt hn, List.mem_singleton] at h
      rw [h, isDigit_digitChar hn]
    · rw [decimal_of_le hn, List.mem_append, List.mem_singleton] at h
      rcases h with h | rfl
      · exact ih (n / 10) (by omega) h
      · exact isDigit_digitChar (Nat.mod_lt n (by decide))

@[simp] theorem ofDecimal?_decimal (n : ℕ) : ofDecimal? (decimal n) = some n := by
  have hd : (decimal n).all isDigit = true := List.all_eq_true.2 fun _ => isDigit_of_mem_decimal
  rw [ofDecimal?, if_pos ⟨decimal_ne_nil n, hd⟩, ofDigits_decimal]

theorem ofDecimal?_eq_some_iff {t : Text} {n : ℕ} : ofDecimal? t = some n ↔
    t ≠ [] ∧ (∀ c ∈ t, isDigit c = true) ∧ ofDigits 0 t = n := by
  unfold ofDecimal?
  split
  · rename_i h
    have hds : ∀ c ∈ t, isDigit c = true := List.all_eq_true.1 h.2
    exact ⟨fun hn => ⟨h.1, hds, Option.some.inj hn⟩, fun hn => congrArg some hn.2.2⟩
  · rename_i h
    simp only [reduceCtorEq, false_iff]
    rintro ⟨hne, hds, -⟩
    exact h ⟨hne, List.all_eq_true.2 hds⟩

theorem exists_eq_digitChar {c : Char} (h : isDigit c = true) :
    ∃ m < 10, c = Nat.digitChar m := by
  obtain ⟨hle, hge⟩ : '0' ≤ c ∧ c ≤ '9' := by simpa [isDigit] using h
  have hlo : 48 ≤ c.toNat := hle
  have hhi : c.toNat ≤ 57 := hge
  refine ⟨c.toNat - 48, by omega, ?_⟩
  rw [← Char.ofNat_toNat c]
  generalize c.toNat = k at hlo hhi
  interval_cases k <;> rfl

theorem ofDigits_replicate_zero (k : ℕ) : ofDigits 0 (List.replicate k '0') = 0 := by
  induction k with
  | zero => rfl
  | succ k ih => exact ih

/-- One more digit is written behind a number, unless the number is zero. -/
theorem decimal_append_digitChar {n m : ℕ} (hn : n ≠ 0) (hm : m < 10) :
    decimal n ++ [Nat.digitChar m] = decimal (n * 10 + m) := by
  have hle : 10 ≤ n * 10 + m := by omega
  have hdiv : (n * 10 + m) / 10 = n := by omega
  have hmod : (n * 10 + m) % 10 = m := by omega
  rw [decimal_of_le hle, hdiv, hmod]

/-- Digits are a number as it is written, behind some zeros. -/
theorem exists_eq_decimal {t : Text} (hne : t ≠ []) (hds : ∀ c ∈ t, isDigit c = true) :
    ∃ k, t = List.replicate k '0' ++ decimal (ofDigits 0 t) := by
  induction t using List.reverseRecOn with
  | nil => exact absurd rfl hne
  | append_singleton t c ih =>
    obtain ⟨m, hm, rfl⟩ := exists_eq_digitChar (hds c (by simp))
    rcases eq_or_ne t [] with rfl | ht
    · refine ⟨0, ?_⟩
      rw [List.nil_append, ofDigits_digitChar 0 hm, Nat.zero_mul, Nat.zero_add, decimal_of_lt hm]
      rfl
    · obtain ⟨k, hk⟩ := ih ht fun x hx => hds x (List.mem_append_left _ hx)
      rw [ofDigits_append, ofDigits_digitChar _ hm]
      rcases eq_or_ne (ofDigits 0 t) 0 with hzero | hpos
      · rw [hzero] at hk ⊢
        refine ⟨k + 1, ?_⟩
        rw [hk, Nat.zero_mul, Nat.zero_add, decimal_of_lt hm, List.replicate_succ']
        rfl
      · refine ⟨k, ?_⟩
        rw [← decimal_append_digitChar hpos hm, ← List.append_assoc, ← hk]

/-- A number is read from its digits, and zeros in front of them are not seen. -/
theorem ofDecimal?_eq_some_iff_decimal {t : Text} {n : ℕ} :
    ofDecimal? t = some n ↔ ∃ k, t = List.replicate k '0' ++ decimal n := by
  rw [ofDecimal?_eq_some_iff]
  constructor
  · rintro ⟨hne, hds, rfl⟩
    exact exists_eq_decimal hne hds
  · rintro ⟨k, rfl⟩
    refine ⟨List.append_ne_nil_of_right_ne_nil _ (decimal_ne_nil n), fun c hc => ?_, ?_⟩
    · rcases List.mem_append.1 hc with hc | hc
      · rw [List.eq_of_mem_replicate hc]
        decide
      · exact isDigit_of_mem_decimal hc
    · rw [ofDigits_append, ofDigits_replicate_zero, ofDigits_decimal]

end MathPage.Text
