import MathPage.Proofs.Equation.Marker
import MathPage.Proofs.Equation.Written

/-!
# Recognizing markers

The search for a start marker takes a text apart at the first opening that is followed by a closing
on its line; the same text may hold other openings, on this line and on others.

* `Marker.startsHere_iff` – a marker at the beginning of a text;
* `Marker.isStart_iff`, `Marker.isEnd_iff` – the texts that hold a start marker, and those that are
  an end marker;
* `Marker.isStart_between_blanks` – blanks around a text are no part of a start marker;
* `Marker.unmarked_of_apart` – a text without comments holds no marker.

The texts that hold a start marker and those that are an end marker are two languages without a
common text (`marker_languages`).
-/

namespace MathPage.Marker

/-! ### Start markers -/

/-- A start marker at the beginning of a text: its opening, and its closing on the same line. -/
theorem startsHere_iff {t : Text} : startsHere t = true ↔
    ∃ b c : Text, t = opener ++ (b ++ (closer ++ c)) ∧ '\n' ∉ b := by
  constructor
  · intro h
    unfold startsHere at h
    cases hafter : Text.after? opener t with
    | none => simp [hafter] at h
    | some rest =>
      simp only [hafter] at h
      obtain ⟨⟨b, c⟩, hcut⟩ := Option.isSome_iff_exists.1 h
      have hline := Text.eq_append_of_cutAt? hcut
      refine ⟨b, c ++ rest.dropWhile (· != '\n'), ?_, fun hmem => ?_⟩
      · rw [Text.eq_append_of_after? hafter, ← List.append_assoc closer, ← List.append_assoc b,
          ← hline, List.takeWhile_append_dropWhile]
      · -- the closing is looked for up to the end of the line only
        have htake : '\n' ∈ rest.takeWhile (· != '\n') := hline ▸ List.mem_append_left _ hmem
        simpa using List.mem_takeWhile_imp htake
  · rintro ⟨b, c, rfl, hb⟩
    exact startsHere_of_line hb c

theorem isStart_cons (c : Char) (t : Text) : isStart (c :: t) = (startsHere (c :: t) || isStart t) :=
  rfl

/-- A text that holds a start marker still does if something is written in front of it. -/
theorem isStart_append {t : Text} (ht : isStart t = true) (a : Text) : isStart (a ++ t) = true := by
  induction a with
  | nil => exact ht
  | cons c a ih => rw [List.cons_append, isStart_cons, ih, Bool.or_true]

/-- **A text holds a start marker** if and only if the opening of one stands somewhere in it and,
behind the opening and on the same line, the closing. -/
theorem isStart_iff {t : Text} : isStart t = true ↔
    ∃ a b c : Text, t = a ++ opener ++ b ++ closer ++ c ∧ '\n' ∉ b := by
  constructor
  · intro h
    induction t with
    | nil => cases h
    | cons x t ih =>
      rw [isStart_cons, Bool.or_eq_true] at h
      rcases h with h | h
      · obtain ⟨b, c, ht, hb⟩ := startsHere_iff.1 h
        exact ⟨[], b, c, by simpa using ht, hb⟩
      · obtain ⟨a, b, c, rfl, hb⟩ := ih h
        exact ⟨x :: a, b, c, rfl, hb⟩
  · rintro ⟨a, b, c, rfl, hb⟩
    have hsplit : a ++ opener ++ b ++ closer ++ c = a ++ (opener ++ (b ++ (closer ++ c))) := by
      simp only [List.append_assoc]
    rw [hsplit]
    exact isStart_append (isStart_of_line hb c) a

/-- What a text ends with after its last angle bracket is no part of a closing. -/
theorem exists_suffix_of_closer {u c t b : Text} (hb : '>' ∉ b) (h : u ++ closer ++ c = t ++ b) :
    ∃ c', c = c' ++ b ∧ t = u ++ closer ++ c' := by
  rcases List.append_eq_append_iff.1 h with ⟨v, ht, hc⟩ | ⟨v, hu, hb'⟩
  · exact ⟨v, hc, ht⟩
  · -- otherwise the closing would reach into `b`
    rcases List.eq_nil_or_concat v with rfl | ⟨v, x, rfl⟩
    · exact ⟨[], by simpa using hb'.symm, by simpa using hu.symm⟩
    · have hlast := congrArg List.getLast? hu
      simp only [closer, List.getLast?_append] at hlast
      obtain rfl : x = '>' := by simpa using hlast.symm
      exact absurd (by simp [hb']) hb

/-- **Blanks around a text are no part of a start marker.** -/
theorem isStart_between_blanks {a b : Text} (ha : ∀ c ∈ a, Text.isBlank c)
    (hb : ∀ c ∈ b, Text.isBlank c) (t : Text) : isStart (a ++ t ++ b) = isStart t := by
  have hne : ∀ {u : Text}, (∀ c ∈ u, Text.isBlank c) → ∀ c ∈ u, c ≠ '<' :=
    fun hu c hc => ne_of_isBlank (hu c hc) (by decide)
  have hclose : '>' ∉ b := fun hmem => ne_of_isBlank (hb _ hmem) (by decide) rfl
  rw [List.append_assoc, isStart_append_of_forall_ne (hne ha), Bool.eq_iff_iff, isStart_iff,
    isStart_iff]
  constructor
  · rintro ⟨u, v, c, ht, hv⟩
    obtain ⟨c', -, ht'⟩ := exists_suffix_of_closer hclose ht.symm
    exact ⟨u, v, c', ht', hv⟩
  · rintro ⟨u, v, c, rfl, hv⟩
    exact ⟨u, v, c ++ b, by simp only [List.append_assoc], hv⟩

/-! ### End markers -/

theorem strip_stop : Text.strip stop = stop := by decide

/-- **A text is an end marker** if and only if there is nothing but blanks around one. -/
theorem isEnd_iff {t : Text} : isEnd t = true ↔ ∃ a c : Text, t = a ++ stop ++ c ∧
    (∀ x ∈ a, Text.isBlank x) ∧ ∀ x ∈ c, Text.isBlank x := by
  rw [isEnd, beq_iff_eq]
  constructor
  · intro h
    obtain ⟨a, c, ha, hc, ht⟩ := Text.exists_eq_append_strip t
    exact ⟨a, c, h ▸ ht, ha, hc⟩
  · rintro ⟨a, c, rfl, ha, hc⟩
    rw [Text.strip_append ha hc, strip_stop]

theorem isEnd_between_blanks {a b : Text} (ha : ∀ c ∈ a, Text.isBlank c)
    (hb : ∀ c ∈ b, Text.isBlank c) (t : Text) : isEnd (a ++ t ++ b) = isEnd t := by
  rw [isEnd, isEnd, Text.strip_append ha hb]

/-! ### Both -/

theorem opener_append (t : Text) :
    opener ++ t = '<' :: '!' :: ("-- <equation".toList ++ t) := rfl

theorem stop_append (t : Text) :
    stop ++ t = '<' :: '!' :: ("-- </equation> -->".toList ++ t) := rfl

/-- A text in which nothing opens with an angle bracket and an exclamation mark holds no marker. -/
theorem unmarked_of_apart {t : Text} (ht : Text.Apart '<' '!' t) :
    isStart t = false ∧ isEnd t = false := by
  constructor
  · rw [Bool.eq_false_iff, Ne, isStart_iff]
    rintro ⟨a, b, c, heq, -⟩
    rw [List.append_assoc, List.append_assoc, List.append_assoc, opener_append] at heq
    exact ht.not_infix heq
  · rw [Bool.eq_false_iff, Ne, isEnd_iff]
    rintro ⟨a, c, heq, -, -⟩
    rw [List.append_assoc, stop_append] at heq
    exact ht.not_infix heq

/-- **The languages of the two markers.** A text holds a start marker if and only if the opening of
one stands in it and, with no line feed in between, the closing; it is an end marker if and only if
there is nothing but blanks around one. No text is both, and neither answer is changed by blanks that
are written around a text or taken away from it. -/
theorem marker_languages (t : Text) :
    (isStart t = true ↔ ∃ a b c : Text, t = a ++ opener ++ b ++ closer ++ c ∧ '\n' ∉ b) ∧
    (isEnd t = true ↔ ∃ a c : Text, t = a ++ stop ++ c ∧ (∀ x ∈ a, Text.isBlank x) ∧
      ∀ x ∈ c, Text.isBlank x) ∧
    ¬ (isStart t = true ∧ isEnd t = true) ∧
    (∀ a c : Text, (∀ x ∈ a, Text.isBlank x) → (∀ x ∈ c, Text.isBlank x) →
      isStart (a ++ t ++ c) = isStart t ∧ isEnd (a ++ t ++ c) = isEnd t) ∧
    isStart (Text.strip t) = isStart t ∧ isEnd (Text.strip t) = isEnd t := by
  refine ⟨isStart_iff, isEnd_iff, ?_, fun a c ha hc =>
    ⟨isStart_between_blanks ha hc t, isEnd_between_blanks ha hc t⟩, ?_⟩
  · rintro ⟨hstart, hend⟩
    rw [not_isStart_of_isEnd hend] at hstart
    cases hstart
  · obtain ⟨a, c, ha, hc, ht⟩ := Text.exists_eq_append_strip t
    have hstart := isStart_between_blanks ha hc (Text.strip t)
    have hend := isEnd_between_blanks ha hc (Text.strip t)
    rw [← ht] at hstart hend
    exact ⟨hstart.symm, hend.symm⟩

/-- An opening without a closing on its line, in front of one whose closing is far behind: other
line ends than the line feed do not end the line. -/
def scatteredSample : Text :=
  "<!-- <equation\n> --> <!-- <equation <!-- <equation\r\u2028> x> --> -->".toList

theorem marker_languages_scattered :
    isStart scatteredSample = true ∧ isEnd scatteredSample = false ∧
      isStart ("\u2003".toList ++ scatteredSample ++ "\x85\n".toList) = isStart scatteredSample ∧
      ¬ (isStart (" ".toList ++ stop) = true ∧ isEnd (" ".toList ++ stop) = true) := by
  obtain ⟨hstart, -, hboth, hblanks, -⟩ := marker_languages scatteredSample
  have hopens : isStart scatteredSample = true := hstart.2
    ⟨"<!-- <equation\n> --> ".toList, " <!-- <equation\r\u2028> x".toList, " -->".toList, by rfl,
      by decide⟩
  refine ⟨hopens, Bool.eq_false_iff.2 fun hend => hboth ⟨hopens, hend⟩,
    (hblanks _ _ (by decide) (by decide)).1, (marker_languages _).2.2.1⟩

end MathPage.Marker
