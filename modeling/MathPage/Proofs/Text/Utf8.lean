import Mathlib.Tactic
import MathPage.Text.Utf8

/-!
# Reading UTF-8 back

The first byte of a character tells how many bytes follow it and, where it is the least or the
greatest of its kind, bounds the second byte.

* `Utf8.shape?_two`, `Utf8.shape?_three`, `Utf8.shape?_four` – what it tells for the characters of
  each length;
* `Utf8.decodeFrom_encodeChar` – the bytes of a character are read as this character, whatever
  follows them.

So the bytes of a text are read as the text (`decode_encode`).
-/

namespace MathPage.Utf8

theorem toNat_toUInt8 {n : ℕ} (hn : n < 0x100) : n.toUInt8.toNat = n := by
  rw [Nat.toUInt8, UInt8.toNat_ofNat', Nat.mod_eq_of_lt hn]

/-- A character is no surrogate. -/
theorem toNat_valid (c : Char) : c.toNat < 0xd800 ∨ 0xdfff < c.toNat ∧ c.toNat < 0x110000 := c.valid

/-! ### Bytes of one character -/

section Continued

variable {lo hi n b : ℕ} {seen rest : List UInt8}

theorem continued_last (hlo : lo ≤ b) (hhi : b ≤ hi) (hb : b < 0x100) :
    continued lo hi 0 n seen (b.toUInt8 :: rest) = .ok (n * 0x40 + (b - 0x80), rest) := by
  rw [continued, toNat_toUInt8 hb, if_pos ⟨hlo, hhi⟩]

theorem continued_more (hlo : lo ≤ b) (hhi : b ≤ hi) (hb : b < 0x100) (more : ℕ) :
    continued lo hi (more + 1) n seen (b.toUInt8 :: rest) =
      continued 0x80 0xbf more (n * 0x40 + (b - 0x80)) (b.toUInt8 :: seen) rest := by
  rw [continued, toNat_toUInt8 hb, if_pos ⟨hlo, hhi⟩]

end Continued

theorem shape?_two {b : ℕ} (hlo : 0xc2 ≤ b) (hhi : b < 0xe0) :
    shape? b = some (0x80, 0xbf, 0) := by
  rw [shape?, if_neg (by omega), if_pos hhi]

/-- The bounds of the second of three bytes leave out what two bytes are enough for, and the
surrogates. -/
theorem shape?_three {n : ℕ} (hlo : 0x800 ≤ n) (hhi : n < 0x10000)
    (hvalid : n < 0xd800 ∨ 0xdfff < n) : ∃ lo hi, shape? (0xe0 + n / 0x1000) = some (lo, hi, 1) ∧
      lo ≤ 0x80 + n / 0x40 % 0x40 ∧ 0x80 + n / 0x40 % 0x40 ≤ hi := by
  rw [shape?, if_neg (by omega), if_neg (by omega)]
  by_cases hleast : 0xe0 + n / 0x1000 = 0xe0
  · rw [if_pos hleast]
    exact ⟨_, _, rfl, by omega, by omega⟩
  rw [if_neg hleast]
  by_cases hsurrogate : 0xe0 + n / 0x1000 = 0xed
  · rw [if_pos hsurrogate]
    exact ⟨_, _, rfl, by omega, by omega⟩
  rw [if_neg hsurrogate, if_pos (by omega)]
  exact ⟨_, _, rfl, by omega, by omega⟩

/-- The bounds of the second of four bytes leave out what three bytes are enough for, and what is
behind the last character. -/
theorem shape?_four {n : ℕ} (hlo : 0x10000 ≤ n) (hhi : n < 0x110000) :
    ∃ lo hi, shape? (0xf0 + n / 0x40000) = some (lo, hi, 2) ∧
      lo ≤ 0x80 + n / 0x1000 % 0x40 ∧ 0x80 + n / 0x1000 % 0x40 ≤ hi := by
  rw [shape?, if_neg (by omega), if_neg (by omega), if_neg (by omega), if_neg (by omega),
    if_neg (by omega)]
  by_cases hleast : 0xf0 + n / 0x40000 = 0xf0
  · rw [if_pos hleast]
    exact ⟨_, _, rfl, by omega, by omega⟩
  rw [if_neg hleast]
  by_cases hmiddle : 0xf0 + n / 0x40000 < 0xf4
  · rw [if_pos hmiddle]
    exact ⟨_, _, rfl, by omega, by omega⟩
  rw [if_neg hmiddle, if_pos (by omega)]
  exact ⟨_, _, rfl, by omega, by omega⟩

/-- A first byte with its continuation is read as a character. -/
theorem decodeFrom_lead {b lo hi more : ℕ} {bytes rest : List UInt8} {c : Char}
    (hb : 0x80 ≤ b ∧ b < 0x100) (hshape : shape? b = some (lo, hi, more))
    (hnumber : continued lo hi more (leadValue b) [b.toUInt8] bytes = .ok (c.toNat, rest))
    (fuel pos : ℕ) : decodeFrom (fuel + 1) pos (b.toUInt8 :: bytes) =
      (decodeFrom fuel (pos + more + 2) rest).map (c :: ·) := by
  have hbyte := toNat_toUInt8 hb.2
  simp only [decodeFrom, hbyte, if_neg (Nat.not_lt.2 hb.1), hshape, hnumber, Char.ofNat_toNat]
  cases decodeFrom fuel (pos + more + 2) rest <;> rfl

/-- **The bytes of a character are read as this character**, whatever follows them. -/
theorem decodeFrom_encodeChar (c : Char) (rest : List UInt8) (fuel pos : ℕ) :
    decodeFrom (fuel + 1) pos (encodeChar c ++ rest) =
      (decodeFrom fuel (pos + (encodeChar c).length) rest).map (c :: ·) := by
  have hvalid := toNat_valid c
  unfold encodeChar
  dsimp only
  by_cases hone : c.toNat < 0x80
  · have hbyte := toNat_toUInt8 (show c.toNat < 0x100 by omega)
    simp only [if_pos hone, List.singleton_append, List.length_singleton, decodeFrom, hbyte,
      Char.ofNat_toNat]
    cases decodeFrom fuel (pos + 1) rest <;> rfl
  rw [if_neg hone]
  by_cases htwo : c.toNat < 0x800
  · rw [if_pos htwo, List.cons_append, List.cons_append, List.nil_append]
    refine decodeFrom_lead (by omega) (shape?_two (by omega) (by omega)) ?_ fuel pos
    have hnumber : leadValue (0xc0 + c.toNat / 0x40) * 0x40 + (0x80 + c.toNat % 0x40 - 0x80) =
        c.toNat := by
      rw [leadValue, if_pos (by omega)]
      omega
    rw [continued_last (by omega) (by omega) (by omega), hnumber]
  rw [if_neg htwo]
  by_cases hthree : c.toNat < 0x10000
  · rw [if_pos hthree, List.cons_append, List.cons_append, List.cons_append, List.nil_append]
    obtain ⟨lo, hi, hshape, hlo, hhi⟩ := shape?_three (by omega) hthree (by omega)
    refine decodeFrom_lead (by omega) hshape ?_ fuel pos
    have hnumber : (leadValue (0xe0 + c.toNat / 0x1000) * 0x40 +
        (0x80 + c.toNat / 0x40 % 0x40 - 0x80)) * 0x40 + (0x80 + c.toNat % 0x40 - 0x80) =
        c.toNat := by
      rw [leadValue, if_neg (by omega), if_pos (by omega)]
      omega
    rw [continued_more hlo hhi (by omega), continued_last (by omega) (by omega) (by omega), hnumber]
  · rw [if_neg hthree, List.cons_append, List.cons_append, List.cons_append, List.cons_append,
      List.nil_append]
    obtain ⟨lo, hi, hshape, hlo, hhi⟩ := shape?_four (by omega) (show c.toNat < 0x110000 by omega)
    refine decodeFrom_lead (by omega) hshape ?_ fuel pos
    have hnumber : ((leadValue (0xf0 + c.toNat / 0x40000) * 0x40 +
        (0x80 + c.toNat / 0x1000 % 0x40 - 0x80)) * 0x40 + (0x80 + c.toNat / 0x40 % 0x40 - 0x80)) *
          0x40 + (0x80 + c.toNat % 0x40 - 0x80) = c.toNat := by
      rw [leadValue, if_neg (by omega), if_neg (by omega)]
      omega
    rw [continued_more hlo hhi (by omega), continued_more (by omega) (by omega) (by omega),
      continued_last (by omega) (by omega) (by omega), hnumber]

/-! ### Texts -/

theorem length_encodeChar_pos (c : Char) : 0 < (encodeChar c).length := by
  unfold encodeChar
  dsimp only
  split_ifs <;> exact Nat.succ_pos _

theorem length_le_length_encode (t : Text) : t.length ≤ (encode t).length := by
  induction t with
  | nil => exact Nat.zero_le _
  | cons c t ih =>
    have hpos := length_encodeChar_pos c
    rw [encode, List.flatMap_cons, List.length_append, List.length_cons]
    rw [encode] at ih
    omega

theorem decodeFrom_encode {fuel : ℕ} {t : Text} (h : t.length ≤ fuel) (pos : ℕ) :
    decodeFrom fuel pos (encode t) = .ok t := by
  induction t generalizing fuel pos with
  | nil => cases fuel <;> rfl
  | cons c t ih =>
    obtain ⟨fuel, rfl⟩ : ∃ k, fuel = k + 1 :=
      Nat.exists_eq_succ_of_ne_zero (by rw [List.length_cons] at h; omega)
    rw [encode, List.flatMap_cons, decodeFrom_encodeChar, ← encode, ih (Nat.le_of_succ_le_succ h)]
    rfl

/-- **The bytes of a text are read as the text.** -/
theorem decode_encode (t : Text) : decode (encode t) = .ok t :=
  decodeFrom_encode (length_le_length_encode t) 0

theorem encode_injective : Function.Injective encode := fun t u h => by
  have hdecode := congrArg decode h
  rwa [decode_encode, decode_encode, Except.ok.injEq] at hdecode

end MathPage.Utf8
