import MathPage.Proofs.Text.Utf8
import MathPage.Text.Percent

/-!
# Reading a percent-encoding back

* `Percent.IsSafe`, `Percent.IsHex` – the characters that are written as they are, and the digits of
  triples;
* `Percent.Encoded` – the texts made of such characters and of triples, and of nothing else.

The encoding of a text is one of these (`encoded_encode`). The bytes behind it are those of the text
(`decode?_encode`), also where the text holds percent signs and triples of its own, so that no two
texts have the same encoding.
-/

namespace MathPage.Percent

/-- ASCII letters and digits and five marks. -/
def IsSafe (c : Char) : Prop :=
  Text.isLetter c = true ∨ Text.isDigit c = true ∨ c ∈ ['_', '.', '-', '~', '/']

/-- The upper-case hexadecimal digits. -/
def IsHex (c : Char) : Prop := Text.isDigit c = true ∨ 'A' ≤ c ∧ c ≤ 'F'

instance (c : Char) : Decidable (IsSafe c) := inferInstanceAs (Decidable (_ ∨ _))

instance (c : Char) : Decidable (IsHex c) := inferInstanceAs (Decidable (_ ∨ _))

/-- Safe characters and triples of a percent sign and two hexadecimal digits. -/
inductive Encoded : Text → Prop where
  | nil : Encoded []
  | safe {c : Char} {t : Text} (hc : IsSafe c) (ht : Encoded t) : Encoded (c :: t)
  | triple {a b : Char} {t : Text} (ha : IsHex a) (hb : IsHex b) (ht : Encoded t) :
    Encoded ('%' :: a :: b :: t)

/-! ### Bytes -/

theorem IsHex.isSafe {c : Char} (hc : IsHex c) : IsSafe c := by
  rcases hc with hdigit | ⟨hlo, hhi⟩
  · exact Or.inr (Or.inl hdigit)
  · have hletter : c ≤ 'Z' := Char.le_trans hhi (by decide)
    exact Or.inl (by simp [Text.isLetter, hlo, hletter])

theorem isHex_hexDigit {n : ℕ} (hn : n < 16) : IsHex (hexDigit n) := by
  have hdigits : ∀ n < 16, IsHex (hexDigit n) := by decide
  exact hdigits n hn

theorem hexValue?_hexDigit {n : ℕ} (hn : n < 16) : hexValue? (hexDigit n) = some n := by
  have hdigits : ∀ n < 16, hexValue? (hexDigit n) = some n := by decide
  exact hdigits n hn

theorem toNat_ofNat {n : ℕ} (hn : n < 128) : (Char.ofNat n).toNat = n := by
  have hcodes : ∀ n < 128, (Char.ofNat n).toNat = n := by decide
  exact hcodes n hn

theorem isSafe_of_isPlain {b : UInt8} (hb : isPlain b = true) : IsSafe (Char.ofNat b.toNat) := by
  simp only [isPlain, Bool.and_eq_true, Bool.or_eq_true, beq_iff_eq] at hb
  simp only [IsSafe, List.mem_cons, List.not_mem_nil, or_false]
  tauto

/-- The two halves of a byte are digits. -/
theorem halves_lt (b : UInt8) : b.toNat / 16 < 16 ∧ b.toNat % 16 < 16 := by
  have hb : b.toNat < 256 := b.toNat_lt
  omega

theorem Encoded.byte {t : Text} (ht : Encoded t) (b : UInt8) : Encoded (encodeByte b ++ t) := by
  unfold encodeByte
  split
  · rename_i hplain
    exact .safe (isSafe_of_isPlain hplain) ht
  · obtain ⟨hhigh, hlow⟩ := halves_lt b
    exact .triple (isHex_hexDigit hhigh) (isHex_hexDigit hlow) ht

/-- A byte that is written as a character has the code of this character. -/
theorem toUInt8_of_isPlain {b : UInt8} (hb : isPlain b = true) :
    (Char.ofNat b.toNat).toNat < 128 ∧ (Char.ofNat b.toNat).toNat.toUInt8 = b := by
  simp only [isPlain, Bool.and_eq_true, decide_eq_true_eq] at hb
  have hlt : b.toNat < 128 := UInt8.lt_iff_toNat_lt.1 hb.1
  rw [toNat_ofNat hlt]
  exact ⟨hlt, by simp⟩

/-- **A byte is read back**, whatever follows it. -/
theorem decode?_encodeByte (b : UInt8) (t : Text) :
    decode? (encodeByte b ++ t) = (decode? t).map (b :: ·) := by
  unfold encodeByte
  split
  · rename_i hplain
    obtain ⟨hlt, hbyte⟩ := toUInt8_of_isPlain hplain
    have hpercent : Char.ofNat b.toNat ≠ '%' := by
      intro hc
      rw [hc] at hbyte
      rw [← hbyte] at hplain
      exact absurd hplain (by decide)
    rw [List.singleton_append, decode?.eq_3 _ _ fun _ _ _ hc _ => hpercent hc, hbyte]
    simp [hlt, hplain, hpercent]
  · obtain ⟨hhigh, hlow⟩ := halves_lt b
    have hbyte : (16 * (b.toNat / 16) + b.toNat % 16).toUInt8 = b := by
      rw [Nat.div_add_mod]
      simp
    simp only [List.cons_append, List.nil_append, decode?, hexValue?_hexDigit hhigh,
      hexValue?_hexDigit hlow]
    cases decode? t with
    | none => rfl
    | some bytes => simp [hbyte]

/-! ### Texts -/

theorem encoded_flatMap (bytes : List UInt8) : Encoded (bytes.flatMap encodeByte) := by
  induction bytes with
  | nil => exact .nil
  | cons b bytes ih =>
    rw [List.flatMap_cons]
    exact ih.byte b

theorem decode?_flatMap (bytes : List UInt8) : decode? (bytes.flatMap encodeByte) = some bytes := by
  induction bytes with
  | nil => rfl
  | cons b bytes ih => rw [List.flatMap_cons, decode?_encodeByte, ih, Option.map_some]

/-- The encoding of a text is made of safe characters and triples. -/
theorem encoded_encode (t : Text) : Encoded (encode t) := encoded_flatMap (Utf8.encode t)

/-- **The bytes behind the encoding of a text are those of the text.** -/
theorem decode?_encode (t : Text) : decode? (encode t) = some (Utf8.encode t) :=
  decode?_flatMap (Utf8.encode t)

theorem encode_injective : Function.Injective encode := fun t u h => by
  have hdecode := congrArg decode? h
  rw [decode?_encode, decode?_encode, Option.some.injEq] at hdecode
  exact Utf8.encode_injective hdecode

/-- Nothing but safe characters and percent signs stands in an encoding. -/
theorem Encoded.mem {t : Text} (ht : Encoded t) {c : Char} (hc : c ∈ t) : IsSafe c ∨ c = '%' := by
  induction ht with
  | nil => cases hc
  | safe hsafe _ ih =>
    rcases List.mem_cons.1 hc with rfl | hc
    · exact Or.inl hsafe
    · exact ih hc
  | triple ha hb _ ih =>
    simp only [List.mem_cons] at hc
    rcases hc with rfl | rfl | rfl | hc
    · exact Or.inr rfl
    · exact Or.inl ha.isSafe
    · exact Or.inl hb.isSafe
    · exact ih hc

end MathPage.Percent
