import MathPage.Proofs.Equation.Image.Request
import MathPage.Proofs.Text.Base64

/-!
# Embedded images

* `Exchange`, `Net.recorded` – a request with its answer, and a net that writes them down;
* `renderEach` – several calls of a renderer, one after the other;
* `linked` – the element that shows the image by its address;
* `Shows` – what a call gives for an answer.

A call writes down one exchange if images are embedded and none if they are not
(`render_recorded`), and behind it the result is told by the answer alone (`shows_source`). So a
sequence of calls makes its requests in order, one for each call, and an image that cannot be had is
linked (`renderEach_embeds`).
-/

namespace MathPage.Image

variable {ω : Type}

/-- What a net was asked for and what it answered. -/
structure Exchange where
  address : Text
  /-- how long the answer could take -/
  timeout : Value
  answer : Answer

/-- What was asked for in an exchange. -/
def Exchange.request (x : Exchange) : Text × Value := (x.address, x.timeout)

/-- The net that keeps a record of its exchanges beside the outside. -/
def Net.recorded (n : Net ω) : Net (ω × List Exchange) where
  fetch address timeout := fun s =>
    ((n.fetch address timeout s.1).1, (n.fetch address timeout s.1).2,
      s.2 ++ [⟨address, timeout, (n.fetch address timeout s.1).1⟩])
  log severity t := fun s => ((n.log severity t s.1).1, (n.log severity t s.1).2, s.2)

/-- Calls of a renderer, one after the other, also behind one that failed. -/
def renderEach (n : Net ω) (s : Source) : List Equation → ω → List (Except Failure Text) × ω
  | [], w => ([], w)
  | e :: es, w =>
    let (r, w) := render n s e w
    let (rs, w) := renderEach n s es w
    (r :: rs, w)

/-- The request for the image of an equation. -/
def Source.request (s : Source) (e : Equation) : Text × Value := (url s e.label e.raw, s.timeout)

/-- The element that shows the image of an equation by its address. -/
def linked (s : Source) (e : Equation) : Text := element e (url s e.label e.raw)

/-- What a call gives for the answer to its request: the element with the image itself if it came,
the element with its address if it did not, and the failure of a request that ended the program. -/
inductive Shows (s : Source) (e : Equation) : Answer → Except Failure Text → Prop where
  | embedded {body : List UInt8} {digits : Text} (hdigits : Base64.decode? digits = some body) :
    Shows s e (.response 200 body)
      (.ok (element e ("data:image/svg+xml;base64,".toList ++ digits)))
  | refused {status : Int} {body : List UInt8} (hstatus : status ≠ 200) :
    Shows s e (.response status body) (.ok (linked s e))
  | unreachable {reason : Text} : Shows s e (.unreachable reason) (.ok (linked s e))
  | broken {f : Failure} : Shows s e (.broken f) (.error f)

/-! ### One call -/

/-- The exchanges of a call. -/
def exchanged (n : Net ω) (s : Source) (e : Equation) (w : ω) : List Exchange :=
  if s.inline then
    [⟨url s e.label e.raw, s.timeout, (n.fetch (url s e.label e.raw) s.timeout w).1⟩]
  else []

/-- A message in front of a result, with a record and without. -/
theorem log_recorded_over {α : Type} (n : Net ω) (severity : Severity) (t : Text) (x : α) :
    Action.Over Prod.fst (n.recorded.log severity t >>= fun _ => pure x)
      (n.log severity t >>= fun _ => pure x) :=
  Action.Over.bind (fun _ => rfl : Action.Over Prod.fst (n.recorded.log severity t) _)
    fun _ => Action.over_result x

theorem embed_recorded_over (n : Net ω) (timeout : Value) (address : Text) :
    Action.Over Prod.fst (embed n.recorded timeout address) (embed n timeout address) := by
  intro s
  have hfetch : n.recorded.fetch address timeout s =
      ((n.fetch address timeout s.1).1, (n.fetch address timeout s.1).2,
        s.2 ++ [⟨address, timeout, (n.fetch address timeout s.1).1⟩]) := rfl
  simp only [embed, hfetch]
  rcases n.fetch address timeout s.1 with ⟨⟨status, body⟩ | reason | f, v⟩
  · by_cases hstatus : status = 200
    · simp only [hstatus, if_true]
    · simp only [hstatus, if_false]
      exact log_recorded_over n _ _ none (v, _)
  · exact log_recorded_over n _ _ none (v, _)
  · rfl

/-- A call with a record of its exchanges is the call. -/
theorem render_recorded_over (n : Net ω) (s : Source) (e : Equation) :
    Action.Over Prod.fst (render n.recorded s e) (render n s e) := by
  unfold render
  dsimp only
  split
  · exact (embed_recorded_over n s.timeout _).bind fun _ => log_recorded_over n _ _ _
  · exact (Action.over_result none).bind fun _ => log_recorded_over n _ _ _

/-- Beside that, it writes down one exchange, or none if images are not embedded. -/
theorem render_recorded (n : Net ω) (s : Source) (e : Equation) (w : ω) (xs : List Exchange) :
    render n.recorded s e (w, xs) =
      ((render n s e w).1, (render n s e w).2, xs ++ exchanged n s e w) := by
  obtain ⟨a, ha, hrender⟩ := render_computes n.recorded s e (w, xs)
  have hxs : (render n.recorded s e (w, xs)).2.2 = xs ++ exchanged n s e w := by
    rw [hrender, (ha _).1.eq_of_log (p := Prod.snd) fun _ _ _ => rfl, Net.after, exchanged]
    cases s.inline with
    | false => exact (List.append_nil xs).symm
    | true => rfl
  rw [render_recorded_over n s e (w, xs), ← hxs]

/-- Behind an answer the source of the image is the one that the answer tells. -/
theorem shows_source (n : Net ω) {s : Source} (hinline : s.inline = true) (e : Equation) (w : ω) :
    Shows s e (n.fetch (url s e.label e.raw) s.timeout w).1
      ((n.source s e w).map (element e)) := by
  rw [Net.source, if_pos hinline]
  rcases (n.fetch (url s e.label e.raw) s.timeout w).1 with ⟨status, body⟩ | reason | f
  · by_cases hstatus : status = 200
    · subst hstatus
      exact .embedded (Base64.decode?_encode body)
    · rw [Answer.image?, if_neg hstatus]
      exact .refused hstatus
  · exact .unreachable
  · exact .broken

/-! ### Sequences of calls -/

/-- The exchanges of several calls. -/
def exchangedEach (n : Net ω) (s : Source) : List Equation → ω → List Exchange
  | [], _ => []
  | e :: es, w => exchanged n s e w ++ exchangedEach n s es (render n s e w).2

theorem renderEach_recorded (n : Net ω) (s : Source) (es : List Equation) (w : ω)
    (xs : List Exchange) : renderEach n.recorded s es (w, xs) =
      ((renderEach n s es w).1, (renderEach n s es w).2, xs ++ exchangedEach n s es w) := by
  induction es generalizing w xs with
  | nil => simp only [renderEach, exchangedEach, List.append_nil]
  | cons e es ih => simp only [renderEach, exchangedEach, render_recorded, ih, List.append_assoc]

/-- One request for each call, or none at all. -/
theorem map_request_exchangedEach (n : Net ω) (s : Source) (es : List Equation) (w : ω) :
    (exchangedEach n s es w).map Exchange.request =
      if s.inline then es.map s.request else [] := by
  induction es generalizing w with
  | nil => simp [exchangedEach]
  | cons e es ih =>
    rw [exchangedEach, List.map_append, ih, exchanged]
    cases s.inline <;> rfl

/-- With embedded images every answer is shown. -/
theorem shows_renderEach {n : Net ω} (hq : n.logger.NeverRefuses) {s : Source}
    (hinline : s.inline = true) (es : List Equation) (w : ω) :
    List.Forall₂ (fun call r => Shows s call.1 call.2.answer r) (es.zip (exchangedEach n s es w))
      (renderEach n s es w).1 := by
  induction es generalizing w with
  | nil => exact .nil
  | cons e es ih =>
    have hfirst := shows_source n hinline e w
    rw [← render_eq_map hq] at hfirst
    rw [exchangedEach, exchanged, if_pos hinline]
    exact .cons hfirst (ih _)

/-- Images that are not embedded are linked. -/
theorem render_of_not_inline {n : Net ω} (hq : n.logger.NeverRefuses) {s : Source}
    (hinline : s.inline = false) (e : Equation) (w : ω) :
    (render n s e w).1 = .ok (linked s e) := by
  rw [render_eq_map hq, Net.source, hinline]
  rfl

theorem renderEach_of_not_inline {n : Net ω} (hq : n.logger.NeverRefuses) {s : Source}
    (hinline : s.inline = false) (es : List Equation) (w : ω) :
    (renderEach n s es w).1 = es.map fun e => .ok (linked s e) := by
  induction es generalizing w with
  | nil => rfl
  | cons e es ih =>
    simp only [renderEach, List.map_cons, ih, render_of_not_inline hq hinline]

/-- **Each call of a sequence makes its request and shows what was answered.** With embedded images
the requests are those for the images of the equations, in order and one for each call, and without
there is none. If the logger takes every message, a call gives what the answer to its request tells:
an image that came is in the element as digits that are read back as its bytes, an image that did
not come is linked, and a request that ends the program gives no element. A linked image is what the
same source gives if images are not embedded. -/
theorem renderEach_embeds (n : Net ω) (s : Source) (es : List Equation) (w : ω) :
    ∃ (results : List (Except Failure Text)) (exchanges : List Exchange) (v : ω),
      renderEach n.recorded s es (w, []) = (results, v, exchanges) ∧
      renderEach n s es w = (results, v) ∧
      exchanges.map Exchange.request = (if s.inline then es.map s.request else []) ∧
      (n.logger.NeverRefuses →
        (s.inline = true → List.Forall₂ (fun call r => Shows s call.1 call.2.answer r)
          (es.zip exchanges) results) ∧
        (s.inline = false → results = es.map fun e => .ok (linked s e)) ∧
        ∀ e w, (render n { s with inline := false } e w).1 = .ok (linked s e)) := by
  refine ⟨_, exchangedEach n s es w, _, renderEach_recorded n s es w [], rfl,
    map_request_exchangedEach n s es w, fun hq => ⟨fun hinline => shows_renderEach hq hinline es w,
      fun hinline => renderEach_of_not_inline hq hinline es w, fun e w => ?_⟩⟩
  exact render_of_not_inline hq (s := { s with inline := false }) rfl e w

/-- A net that gives the answers of a list, and none behind its end. -/
def Net.scripted : Net (List Answer) where
  fetch _ _ := fun
    | [] => (.unreachable "offline".toList, [])
    | answer :: rest => (answer, rest)
  log _ _ := pure ()

/-- An image that comes, one that does not, and a request that ends the program. -/
theorem renderEach_embeds_scripted :
    let s : Source := { inline := true, timeout := .int 2 }
    let e : Equation := ⟨"eq1".toList, "a".toList, "x^2".toList⟩
    let request := ("https://latex.codecogs.com/svg.image?x%5E2".toList, Value.int 2)
    let failure := Failure.foreign .value "bad".toList
    Net.scripted.logger.NeverRefuses ∧ s.inline = true ∧
      ∃ exchanges digits, Base64.decode? digits = some [60, 0, 255, 62] ∧
        renderEach Net.scripted.recorded s [e, e, e]
          ([.response 200 [60, 0, 255, 62], .response 503 [], .broken failure], []) =
            ([.ok (element e ("data:image/svg+xml;base64,".toList ++ digits)), .ok (linked s e),
              .error failure], [], exchanges) ∧
        exchanges.map Exchange.request = [request, request, request] := by
  intro s e request failure
  have hq : Net.scripted.logger.NeverRefuses := fun _ _ _ => rfl
  obtain ⟨results, exchanges, v, hrecorded, -, hrequests, hresults⟩ :=
    renderEach_embeds Net.scripted s [e, e, e]
      [.response 200 [60, 0, 255, 62], .response 503 [], .broken failure]
  have hshows := (hresults hq).1 rfl
  obtain rfl : v = [] := congrArg (fun p => p.2.1) hrecorded.symm
  obtain rfl : exchanges = [⟨request.1, request.2, .response 200 [60, 0, 255, 62]⟩,
      ⟨request.1, request.2, .response 503 []⟩, ⟨request.1, request.2, .broken failure⟩] :=
    congrArg (fun p => p.2.2) hrecorded.symm
  rcases hshows with _ | ⟨hfirst, _ | ⟨hsecond, _ | ⟨hthird, _ | _⟩⟩⟩
  cases hfirst with
  | refused hstatus => exact absurd rfl hstatus
  | @embedded _ digits hdigits =>
    cases hthird
    cases hsecond
    exact ⟨hq, rfl, _, digits, hdigits, hrecorded, hrequests⟩

end MathPage.Image
