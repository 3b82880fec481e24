import MathPage.Proofs.Text.Basic

/-!
# Characters written as codes

Inside markup some characters are written as codes, such as `&lt;` for an angle bracket.

* `Code` – a code and its character; `IsTable` – codes that can be told apart;
* `decode` – reads a text from left to right, a code for its character and every other character for
  itself;
* `Writes` – the ways in which a character may be written.

A text in which every character is written in one of these ways is read back (`decode_flatMap`).
-/

namespace MathPage.Text

/-- A code that is written for a character. -/
structure Code where
  written : Text
  meaning : Char
  deriving DecidableEq, Repr

/-- Codes that can be told apart: each opens with an ampersand, and none opens with another. -/
structure IsTable (codes : List Code) : Prop where
  ampersand : ∀ k ∈ codes, k.written.head? = some '&'
  apart : ∀ k ∈ codes, ∀ l ∈ codes, k.written <+: l.written → k = l

/-- The code that a text opens with. -/
def code? (codes : List Code) (t : Text) : Option Code := codes.find? fun k => opens k.written t

/-- Reads codes; the first `skip` characters belong to a code that has been read. -/
def decodeFrom (codes : List Code) : ℕ → Text → Text
  | _, [] => []
  | skip + 1, _ :: t => decodeFrom codes skip t
  | 0, c :: t =>
    match code? codes (c :: t) with
    | some k => k.meaning :: decodeFrom codes (k.written.length - 1) t
    | none => c :: decodeFrom codes 0 t

/-- Reads codes. -/
def decode (codes : List Code) (t : Text) : Text := decodeFrom codes 0 t

/-- The ways to write a character: as it is, unless it is the ampersand, or as a code. -/
inductive Writes (codes : List Code) : Char → Text → Prop where
  | plain {c : Char} (hc : c ≠ '&') : Writes codes c [c]
  | coded {k : Code} (hk : k ∈ codes) : Writes codes k.meaning k.written

variable {codes : List Code}

theorem opens_iff {p t : Text} : opens p t = true ↔ p <+: t := by
  rw [opens, Option.isSome_iff_exists]
  constructor
  · rintro ⟨r, hr⟩
    exact ⟨r, (eq_append_of_after? hr).symm⟩
  · rintro ⟨r, rfl⟩
    exact ⟨r, after?_append p r⟩

namespace IsTable

theorem written_eq (hcodes : IsTable codes) {k : Code} (hk : k ∈ codes) :
    ∃ u, k.written = '&' :: u := by
  rcases hw : k.written with _ | ⟨c, u⟩
  · have hhead := hcodes.ampersand k hk
    rw [hw] at hhead
    cases hhead
  · have hhead := hcodes.ampersand k hk
    rw [hw] at hhead
    exact ⟨u, by rw [Option.some.inj hhead]⟩

/-- A text that opens with a code opens with no other one. -/
theorem code?_written (hcodes : IsTable codes) {k : Code} (hk : k ∈ codes) (t : Text) :
    code? codes (k.written ++ t) = some k := by
  have hopens : opens k.written (k.written ++ t) = true := opens_iff.2 (List.prefix_append _ _)
  cases hfind : code? codes (k.written ++ t) with
  | none => exact absurd hopens (List.find?_eq_none.1 hfind k hk)
  | some l =>
    have hl := List.mem_of_find?_eq_some hfind
    have hprefix : l.written <+: k.written ++ t :=
      opens_iff.1 (List.find?_some (p := fun k' : Code => opens k'.written (k.written ++ t)) hfind)
    rcases List.prefix_or_prefix_of_prefix hprefix (List.prefix_append k.written t) with h | h
    · rw [hcodes.apart l hl k hk h]
    · rw [hcodes.apart k hk l hl h]

/-- No code begins with a character other than the ampersand. -/
theorem code?_eq_none (hcodes : IsTable codes) {c : Char} (hc : c ≠ '&') (t : Text) :
    code? codes (c :: t) = none := by
  refine List.find?_eq_none.2 fun k hk hopens => ?_
  obtain ⟨u, hu⟩ := hcodes.written_eq hk
  obtain ⟨r, hr⟩ := opens_iff.1 hopens
  rw [hu, List.cons_append] at hr
  exact hc (List.cons.inj hr).1.symm

end IsTable

theorem decodeFrom_length (u t : Text) : decodeFrom codes u.length (u ++ t) = decode codes t := by
  induction u with
  | nil => rfl
  | cons c u ih => exact ih

theorem decode_cons (hcodes : IsTable codes) {c : Char} (hc : c ≠ '&') (t : Text) :
    decode codes (c :: t) = c :: decode codes t := by
  rw [decode, decodeFrom, hcodes.code?_eq_none hc]
  rfl

theorem decode_written (hcodes : IsTable codes) {k : Code} (hk : k ∈ codes) (t : Text) :
    decode codes (k.written ++ t) = k.meaning :: decode codes t := by
  have hcode := hcodes.code?_written hk t
  obtain ⟨u, hu⟩ := hcodes.written_eq hk
  rw [hu, List.cons_append] at hcode ⊢
  rw [decode, decodeFrom, hcode]
  simp only [hu, List.length_cons, Nat.add_sub_cancel, decodeFrom_length]

/-- **A text is read back** if every character of it was written as it is or as one of its codes. -/
theorem decode_flatMap (hcodes : IsTable codes) {write : Char → Text} {t : Text}
    (hwrite : ∀ c ∈ t, Writes codes c (write c)) : decode codes (t.flatMap write) = t := by
  induction t with
  | nil => rfl
  | cons c t ih =>
    have hrest := ih fun d hd => hwrite d (List.mem_cons_of_mem c hd)
    have hfirst := hwrite c List.mem_cons_self
    rw [List.flatMap_cons]
    generalize write c = u at hfirst ⊢
    cases hfirst with
    | plain hc => rw [List.singleton_append, decode_cons hcodes hc, hrest]
    | coded hk => rw [decode_written hcodes hk, hrest]

end MathPage.Text
