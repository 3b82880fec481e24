import MathPage.Proofs.Equation.Image.Element
import MathPage.Proofs.Equation.Image.Embedded
import MathPage.Proofs.Text.Occurrence
import MathPage.Proofs.Text.Percent

/-!
# Addresses at the service

A source without a folder has its images at the service, and the query of an address is the
expression, percent-encoded.

* `mem_atService` – the characters of such an address;
* `quoted_eq_self` – a value in which nothing is escaped;
* `Net.Delivers` – the image itself comes and is embedded; otherwise the element shows the address
  (`eq_linked_of_render`).

The query is read back as the expression, and an address stands in the element as it is
(`query_lossless`). It does not stand there if the image came.
-/

namespace MathPage.Image

/-! ### Values in which nothing is escaped -/

theorem escape_eq_self {t : Text} (h : ∀ c ∈ t, c ≠ '&' ∧ c ≠ '<' ∧ c ≠ '>') : escape t = t := by
  have hchar : ∀ c ∈ t, escapeChar c = [c] := by
    intro c hc
    obtain ⟨hampersand, hopen, hclose⟩ := h c hc
    unfold escapeChar
    split
    · exact absurd rfl hampersand
    · exact absurd rfl hopen
    · exact absurd rfl hclose
    · rfl
  rw [escape, List.flatMap_congr hchar, List.flatMap_singleton']

/-- A value in which nothing is escaped stands between quotation marks as it is, if it holds none. -/
theorem quoted_eq_self {t : Text} (hescape : escape t = t) (hquote : Text.quote ∉ t) :
    quoted t = Text.quote :: t ++ [Text.quote] := by
  rw [quoted, hescape, if_neg (mt List.contains_iff_mem.1 hquote)]

/-! ### Addresses -/

theorem url_eq_atService {s : Source} (hs : s.folder? = none) (label raw : Text) :
    url s label raw = atService raw := by
  rw [url, hs]
  rfl

theorem atService_injective : Function.Injective atService := fun _ _ h =>
  Percent.encode_injective (List.cons.inj (List.append_cancel_left h)).2

/-- The characters of an address at the service. -/
theorem mem_atService {raw : Text} {c : Char} (hc : c ∈ atService raw) :
    Percent.IsSafe c ∨ c ∈ [':', '?', '%'] := by
  have hservice : ∀ c ∈ service, Percent.IsSafe c ∨ c ∈ [':', '?', '%'] := by decide
  rcases List.mem_append.1 hc with hc | hc
  · exact hservice c hc
  rcases List.mem_cons.1 hc with rfl | hc
  · exact Or.inr (by decide)
  rcases (Percent.encoded_encode raw).mem hc with hsafe | rfl
  · exact Or.inl hsafe
  · exact Or.inr (by decide)

/-- Nothing in an address at the service is escaped. -/
theorem not_mem_atService {raw : Text} {c : Char} (hc : c ∈ ['&', '<', '>', Text.quote]) :
    c ∉ atService raw := fun hmem => by
  have hnone : ∀ c ∈ ['&', '<', '>', Text.quote],
      ¬ (Percent.IsSafe c ∨ c ∈ [':', '?', '%']) := by decide
  exact hnone c hc (mem_atService hmem)

theorem escape_atService (raw : Text) : escape (atService raw) = atService raw :=
  escape_eq_self fun _ hc => ⟨fun h => not_mem_atService (by decide) (h ▸ hc),
    fun h => not_mem_atService (by decide) (h ▸ hc), fun h => not_mem_atService (by decide) (h ▸ hc)⟩

theorem quoted_atService (raw : Text) :
    quoted (atService raw) = Text.quote :: atService raw ++ [Text.quote] :=
  quoted_eq_self (escape_atService raw) (not_mem_atService (by decide))

/-! ### Calls -/

variable {ω : Type}

/-- The image of an equation comes and is embedded. -/
def Net.Delivers (n : Net ω) (s : Source) (e : Equation) (w : ω) : Prop :=
  s.inline = true ∧ ∃ body, (n.fetch (url s e.label e.raw) s.timeout w).1 = .response 200 body

theorem source_of_not_delivers {n : Net ω} {s : Source} {e : Equation} {w : ω}
    (hlink : ¬ n.Delivers s e w) {src : Text} (hsource : n.source s e w = .ok src) :
    src = url s e.label e.raw := by
  rw [Net.source] at hsource
  split at hsource
  · rename_i hinline
    rcases hanswer : (n.fetch (url s e.label e.raw) s.timeout w).1 with ⟨status, body⟩ | reason | f <;>
      rw [hanswer] at hsource
    · by_cases hstatus : status = 200
      · exact absurd ⟨hinline, body, hstatus ▸ hanswer⟩ hlink
      · rw [Answer.image?, if_neg hstatus] at hsource
        exact (Except.ok.inj hsource).symm
    · exact (Except.ok.inj hsource).symm
    · cases hsource
  · exact (Except.ok.inj hsource).symm

/-- An image that does not come is linked. -/
theorem eq_linked_of_render {n : Net ω} {s : Source} {e : Equation} {w : ω} {html : Text}
    (hlink : ¬ n.Delivers s e w) (hhtml : (render n s e w).1 = .ok html) : html = linked s e := by
  obtain ⟨src, hsource, rfl⟩ := eq_element_of_render hhtml
  rw [source_of_not_delivers hlink hsource, linked]

/-- **The query of an address at the service is the expression, without loss.** It is made of safe
characters and triples; its bytes are read as the expression, whatever characters that has; and so
two addresses at the service are equal if and only if their expressions are, wherever else the two
sources and labels differ. In the element of an image that is linked, the address is the source, and
it is written between quotation marks as it is. A call gives this element unless the image comes, the
request ends the program or a message is refused. -/
theorem query_lossless {s : Source} (hs : s.folder? = none) (e : Equation) :
    (∃ (query : Text) (bytes : List UInt8), url s e.label e.raw = service ++ '?' :: query ∧
      Percent.Encoded query ∧ Percent.decode? query = some bytes ∧
      Utf8.decode bytes = .ok e.raw) ∧
    (∀ (s' : Source) (label raw : Text), s'.folder? = none →
      (url s' label raw = url s e.label e.raw ↔ raw = e.raw)) ∧
    (Reader.nodes? (linked s e) = some [figure e (url s e.label e.raw)] ∧
      escape (url s e.label e.raw) = url s e.label e.raw ∧
      ∃ front behind, linked s e = front ++ (" src=".toList ++
        (Text.quote :: url s e.label e.raw ++ [Text.quote])) ++ behind) ∧
    (∀ (ω : Type) (n : Net ω) (w : ω), ¬ n.Delivers s e w →
      (∀ html, (render n s e w).1 = .ok html → html = linked s e) ∧
      (n.logger.NeverRefuses →
        (s.inline = true → ∀ f, (n.fetch (url s e.label e.raw) s.timeout w).1 ≠ .broken f) →
        (render n s e w).1 = .ok (linked s e))) := by
  have hurl := url_eq_atService hs e.label e.raw
  have hquoted : quoted (url s e.label e.raw) =
      Text.quote :: url s e.label e.raw ++ [Text.quote] := by
    rw [hurl, quoted_atService]
  refine ⟨⟨Percent.encode e.raw, Utf8.encode e.raw, hurl, Percent.encoded_encode e.raw,
    Percent.decode?_encode e.raw, Utf8.decode_encode e.raw⟩, fun s' label raw hs' => ?_,
    ⟨nodes?_element _ _, by rw [hurl, escape_atService], ?_⟩, fun ω n w hlink =>
      ⟨fun html => eq_linked_of_render hlink, fun hq hanswer => ?_⟩⟩
  · rw [hurl, url_eq_atService hs']
    exact atService_injective.eq_iff
  · rw [← hquoted]
    exact ⟨_, _, rfl⟩
  · obtain ⟨src, hsource⟩ := exists_source_eq_ok hanswer
    rw [render_eq_map hq, hsource, source_of_not_delivers hlink hsource]
    rfl

/-- An expression with marks, a percent sign, a triple and characters of two, three and four
bytes. -/
theorem query_lossless_marks :
    let s : Source := { base := some "".toList }
    let e : Equation := ⟨"eq1".toList, "a".toList, "\"%41\" & é ≤ 𝔸/~".toList⟩
    let address := "https://latex.codecogs.com/svg.image?".append
      "%22%2541%22%20%26%20%C3%A9%20%E2%89%A4%20%F0%9D%94%B8/~"
    s.folder? = none ∧ url s e.label e.raw = address.toList ∧
      (render .offline s e ()).1 = .ok (linked s e) ∧
      ∃ front behind, linked s e = front ++ (" src=".toList ++
        (Text.quote :: address.toList ++ [Text.quote])) ++ behind := by
  intro s e address
  have hs : s.folder? = none := rfl
  have hurl : url s e.label e.raw = address.toList := by decide +kernel
  obtain ⟨-, -, ⟨-, -, hprinted⟩, hcalls⟩ := query_lossless hs e
  obtain ⟨-, hgives⟩ := hcalls Unit .offline () fun hd => by cases hd.1
  refine ⟨hs, hurl, hgives (fun _ _ _ => rfl) (fun hinline => by cases hinline), ?_⟩
  rwa [hurl] at hprinted

/-- An image that comes is embedded, and its address stands nowhere in the element. -/
theorem query_lossless_embedded :
    let s : Source := { inline := true }
    let e : Equation := ⟨"eq1".toList, "a".toList, "x^2".toList⟩
    s.folder? = none ∧ ∃ html, (render .scripted s e [.response 200 [60, 62]]).1 = .ok html ∧
      ¬ url s e.label e.raw <:+: html := by
  intro s e
  refine ⟨rfl, _, rfl, Text.cutAt?_eq_none_iff.1 ?_⟩
  decide +kernel

end MathPage.Image
