import MathPage.Equation.Image
import MathPage.Proofs.Equation.Host

/-!
# What an image of an equation asks for

* `Net.logger` – the logger of a net, as that of a host;
* `Net.traced` – a net that writes down its requests; `requests` – those of one call;
* `Net.source` – the source of an image, which may depend on the answer to a request;
* `Net.after` – the outside behind that request;
* `inFolder`, `atService` – the addresses of an image in a folder and at the service.

A call makes its request, and then it gives the element with this source and does nothing beside it
but log (`render_computes`). A folder with a name is honoured (`base_honoured`): the request and the
source depend on the label and not on the expression. A base of slashes only names no folder, and
the expression is sent to the service.
-/

namespace MathPage.Image

variable {ω : Type}

/-- The logger of a net, in a host that renders nothing. -/
def Net.logger (n : Net ω) : Host ω where
  render _ := pure none
  log := n.log

/-- The net that keeps a record of the requests, each with how long it may take, beside the
outside. -/
def Net.traced (n : Net ω) : Net (ω × List (Text × Value)) where
  fetch address timeout := fun s =>
    ((n.fetch address timeout s.1).1, (n.fetch address timeout s.1).2, s.2 ++ [(address, timeout)])
  log severity t := fun s => ((n.log severity t s.1).1, (n.log severity t s.1).2, s.2)

/-- The requests of a call. -/
def requests (n : Net ω) (s : Source) (e : Equation) (w : ω) : List (Text × Value) :=
  (render n.traced s e (w, [])).2.2

/-- The image that an answer holds, as a data URI. -/
def Answer.image? : Answer → Except Failure (Option Text)
  | .response status body =>
    .ok (if status = 200 then some ("data:image/svg+xml;base64,".toList ++ Base64.encode body)
      else none)
  | .unreachable _ => .ok none
  | .broken f => .error f

/-- The source of an image: its address, or the image itself if it is embedded and came. -/
def Net.source (n : Net ω) (s : Source) (e : Equation) (w : ω) : Except Failure Text :=
  let address := url s e.label e.raw
  if s.inline then (n.fetch address s.timeout w).1.image?.map fun image => image.getD address
  else .ok address

/-- The outside behind the request of a call, if there is one. -/
def Net.after (n : Net ω) (s : Source) (e : Equation) (w : ω) : ω :=
  if s.inline then (n.fetch (url s e.label e.raw) s.timeout w).2 else w

/-- Behind its request, embedding gives the image of the answer and only logs. -/
theorem embed_computes (n : Net ω) (timeout : Value) (address : Text) (w : ω) :
    ∃ a, n.logger.Computes a (n.fetch address timeout w).1.image? ∧
      embed n timeout address w = a (n.fetch address timeout w).2 := by
  have hlog : ∀ t, n.logger.Computes (do n.log .warning t; return none : Action ω (Option Text))
      (.ok none) := fun t => .after_log fun _ => Host.computes_pure none
  unfold embed
  rcases n.fetch address timeout w with ⟨⟨status, body⟩ | reason | f, v⟩
  · by_cases hstatus : status = 200
    · refine ⟨pure _, ?_, if_pos hstatus⟩
      rw [Answer.image?, if_pos hstatus]
      exact Host.computes_pure _
    · refine ⟨_, ?_, if_neg hstatus⟩
      rw [Answer.image?, if_neg hstatus]
      exact hlog _
  · exact ⟨_, hlog _, rfl⟩
  · exact ⟨Action.fail f, Host.computes_fail f, rfl⟩

/-- **Behind its request, a call gives the element with the source and only logs.** -/
theorem render_computes (n : Net ω) (s : Source) (e : Equation) (w : ω) :
    ∃ a, n.logger.Computes a ((n.source s e w).map (element e)) ∧
      render n s e w = a (n.after s e w) := by
  have hprint : ∀ src, n.logger.Computes
      (do n.log .debug ("Generated HTML: ".toList ++ element e src); return element e src :
        Action ω Text) (.ok (element e src)) :=
    fun src => .after_log fun _ => Host.computes_pure _
  cases hinline : s.inline with
  | false =>
    refine ⟨_, ?_, by rw [render, Net.after, hinline]; rfl⟩
    rw [Net.source, hinline]
    exact hprint _
  | true =>
    obtain ⟨a, ha, hembed⟩ := embed_computes n s.timeout (url s e.label e.raw) w
    have hmap : ∀ x : Except Failure (Option Text),
        (x.map fun image => image.getD (url s e.label e.raw)).map (element e) =
          x >>= fun image => .ok (element e (image.getD (url s e.label e.raw))) := by
      rintro (_ | _) <;> rfl
    refine ⟨_, ?_, by
      rw [render, Net.after, hinline]
      exact Action.bind_congr hembed _⟩
    rw [Net.source, hinline, if_pos rfl, hmap]
    exact ha.bind fun image => hprint (image.getD (url s e.label e.raw))

/-- A call that gives something gives the element with the source. -/
theorem eq_element_of_render {n : Net ω} {s : Source} {e : Equation} {w : ω} {html : Text}
    (h : (render n s e w).1 = .ok html) :
    ∃ src, n.source s e w = .ok src ∧ html = element e src := by
  obtain ⟨a, ha, hrender⟩ := render_computes n s e w
  rw [hrender] at h
  have hmap := (ha.of_ok (Prod.ext h rfl : a _ = (.ok html, _))).1
  cases hsource : n.source s e w with
  | error f => rw [hsource] at hmap; cases hmap
  | ok src =>
    rw [hsource] at hmap
    exact ⟨src, rfl, (Except.ok.inj hmap).symm⟩

/-- A call gives the element if there is a source and no message is refused. -/
theorem render_eq_map {n : Net ω} (hq : n.logger.NeverRefuses) (s : Source) (e : Equation)
    (w : ω) : (render n s e w).1 = (n.source s e w).map (element e) := by
  obtain ⟨a, ha, hrender⟩ := render_computes n s e w
  obtain ⟨v, hv, -⟩ := ha.exists_eq hq (n.after s e w)
  rw [hrender, hv]

/-- There is a source unless the request ends the program. -/
theorem exists_source_eq_ok {n : Net ω} {s : Source} {e : Equation} {w : ω}
    (hanswer : s.inline = true → ∀ f, (n.fetch (url s e.label e.raw) s.timeout w).1 ≠ .broken f) :
    ∃ src, n.source s e w = .ok src := by
  rw [Net.source]
  split
  · rename_i hinline
    rcases hr : (n.fetch (url s e.label e.raw) s.timeout w).1 with ⟨status, body⟩ | reason | f
    · exact ⟨_, rfl⟩
    · exact ⟨_, rfl⟩
    · exact absurd hr (hanswer hinline f)
  · exact ⟨_, rfl⟩

/-! ### Requests -/

/-- A call makes one request, for the address of its image, or none if images are not embedded. -/
theorem requests_eq (n : Net ω) (s : Source) (e : Equation) (w : ω) :
    requests n s e w = if s.inline then [(url s e.label e.raw, s.timeout)] else [] := by
  obtain ⟨a, ha, hrender⟩ := render_computes n.traced s e (w, [])
  have hlogged := (ha (n.traced.after s e (w, []))).1
  rw [requests, hrender, hlogged.eq_of_log (p := Prod.snd) fun _ _ _ => rfl, Net.after]
  cases s.inline <;> rfl

/-- Equations with the same address have the same source. -/
theorem source_congr (n : Net ω) {s : Source} {e e' : Equation}
    (h : url s e.label e.raw = url s e'.label e'.raw) (w : ω) :
    n.source s e w = n.source s e' w := by
  rw [Net.source, Net.source, h]

/-! ### Folders -/

/-- The address of the image of a label in a folder. -/
def inFolder (folder label : Text) : Text :=
  folder ++ "/equation_".toList ++ label ++ ".svg".toList

/-- The address of an expression at the service. -/
def atService (raw : Text) : Text := service ++ '?' :: Percent.encode raw

/-- The base of a source without its slashes at the end decides where an image is. -/
theorem url_eq {s : Source} {base : Text} (hbase : s.base = some base) (label raw : Text) :
    url s label raw = if Text.trimRight (· == '/') base = [] then atService raw
      else inFolder (Text.trimRight (· == '/') base) label := by
  rw [url, Source.folder?, hbase]
  dsimp only
  cases Text.trimRight (· == '/') base <;> rfl

/-- **A base is honoured if it is not made of slashes only.** The images are in the folder that is
left without the slashes at its end: one request is made at most, for the image of the label there,
and the source depends on the label and the outside and not on the expression. If nothing is left,
the image and the request are those of the expression at the service. -/
theorem base_honoured (n : Net ω) {s : Source} {base : Text} (hbase : s.base = some base) :
    let folder := Text.trimRight (· == '/') base
    (∃ slashes : Text, base = folder ++ slashes ∧ ∀ c ∈ slashes, c = '/') ∧
      folder.getLast? ≠ some '/' ∧
      (folder ≠ [] → ∃ source : Text → ω → Except Failure Text, ∀ e w,
        url s e.label e.raw = inFolder folder e.label ∧
          requests n s e w = (if s.inline then [(inFolder folder e.label, s.timeout)] else []) ∧
          (∀ html, (render n s e w).1 = .ok html →
            ∃ src, source e.label w = .ok src ∧ html = element e src) ∧
          (n.logger.NeverRefuses → (render n s e w).1 = (source e.label w).map (element e))) ∧
      (folder = [] → ∀ e w, url s e.label e.raw = atService e.raw ∧
        requests n s e w = if s.inline then [(atService e.raw, s.timeout)] else []) := by
  intro folder
  refine ⟨?_, Text.getLast?_trimRight rfl base, fun hfolder => ?_, fun hfolder e w => ?_⟩
  · obtain ⟨slashes, hslashes, hcut⟩ := Text.trimRight_append (· == '/') base
    exact ⟨slashes, hcut, fun c hc => beq_iff_eq.1 (hslashes c hc)⟩
  · have hurl : ∀ label raw, url s label raw = inFolder folder label := fun label raw => by
      rw [url_eq hbase, if_neg hfolder]
    refine ⟨fun label w => n.source s ⟨label, [], []⟩ w, fun e w => ?_⟩
    -- every equation with this label has the source of the one without an expression
    have hsource : n.source s ⟨e.label, [], []⟩ w = n.source s e w :=
      source_congr n (by rw [hurl, hurl]) w
    dsimp only
    rw [hsource]
    exact ⟨hurl e.label e.raw, by rw [requests_eq, hurl], fun html => eq_element_of_render,
      fun hq => render_eq_map hq s e w⟩
  · have hurl : url s e.label e.raw = atService e.raw := by rw [url_eq hbase, if_pos hfolder]
    exact ⟨hurl, by rw [requests_eq, hurl]⟩

/-- A net without a connection, whose logger takes every message. -/
def Net.offline : Net Unit where
  fetch _ _ := fun w => (.unreachable "offline".toList, w)
  log _ _ := pure ()

theorem base_honoured_folder :
    let s : Source := { base := some "docs/img//".toList, inline := true }
    let address := "docs/img/equation_mean.svg".toList
    s.base = some "docs/img//".toList ∧
      url s "mean".toList "x".toList = address ∧
      requests .offline s ⟨"mean".toList, "m".toList, "x".toList⟩ () = [(address, .int 10)] ∧
      ∃ src : Except Failure Text, ∀ raw,
        (render .offline s ⟨"mean".toList, "m".toList, raw⟩ ()).1 =
          src.map (element ⟨"mean".toList, "m".toList, raw⟩) := by
  intro s address
  have hbase : s.base = some "docs/img//".toList := rfl
  obtain ⟨-, -, hnamed, -⟩ := base_honoured .offline hbase
  obtain ⟨source, hsource⟩ := hnamed (by decide)
  obtain ⟨hurl, hrequests, -, -⟩ := hsource ⟨"mean".toList, "m".toList, "x".toList⟩ ()
  exact ⟨hbase, hurl, hrequests, source "mean".toList (), fun raw =>
    (hsource ⟨"mean".toList, "m".toList, raw⟩ ()).2.2.2 fun _ _ _ => rfl⟩

/-- The base `/` names no folder: the expression is sent to the service. -/
theorem base_honoured_slash :
    let s : Source := { base := some "/".toList, inline := true }
    let address := "https://latex.codecogs.com/svg.image?x%5E2".toList
    url s "eq1".toList "x^2".toList ≠ "/equation_eq1.svg".toList ∧
      url s "eq1".toList "x^2".toList = address ∧
      requests .offline s ⟨"eq1".toList, "a".toList, "x^2".toList⟩ () = [(address, .int 10)] := by
  intro s address
  have hurl : url s "eq1".toList "x^2".toList = address := by decide
  refine ⟨?_, hurl, ?_⟩
  · rw [hurl]
    decide
  · rw [requests_eq, hurl]
    rfl

end MathPage.Image
