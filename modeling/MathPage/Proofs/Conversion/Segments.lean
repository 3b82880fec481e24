import MathPage.Proofs.Conversion.Host
import MathPage.Proofs.Conversion.Stages

/-!
# How the stages of a run end

* `Job.reading`, `Job.converting`, `Job.rendering` – a conversion up to the end of a stage;
* `Job.Ends` – how a stage ends that is run, in the world that the stages in front of it have left;
* `Job.ends_over` – the stages end in the same way with a host that has more behind it.

A conversion renders its page and stores it (`Job.stages_eq`), and each of the three is the one in
front of it with one stage more.
-/

namespace MathPage

variable {ω : Type} {h : Host ω}

namespace Job

/-- Goes on from a result with the next stage, unless an outcome has been delivered. -/
def handOn {α β : Type} (r : Except Outcome α) (k : α → Action (World ω) (Except Outcome β)) :
    Action (World ω) (Except Outcome β) :=
  match r with
  | .error o => pure (.error o)
  | .ok x => k x

/-- A conversion up to the text of its source. -/
def reading (h : Host ω) (j : Job) : Action (World ω) (Except Outcome Text) := do
  loaded h (← j.read h)

/-- A conversion up to the converted text. -/
def converting (h : Host ω) (j : Job) : Action (World ω) (Except Outcome Text) := do
  handOn (← reading h j) (fragment h)

/-- A conversion up to the page. -/
def rendering (h : Host ω) (j : Job) : Action (World ω) (Except Outcome Text) := do
  handOn (← converting h j) (page h j.options)

theorem handOn_bind {α β : Type} (r : Except Outcome α)
    (k : α → Action (World ω) (Except Outcome β)) (k' : β → Action (World ω) Outcome) :
    (handOn r k >>= fun r => unlessDelivered r k') =
      unlessDelivered r fun x => k x >>= fun r => unlessDelivered r k' := by
  cases r <;> rfl

/-- A conversion renders its page and stores it. -/
theorem stages_eq (h : Host ω) (j : Job) :
    j.stages h = rendering h j >>= fun r => unlessDelivered r (store h j.destination) := by
  simp only [stages, finish, rendering, converting, reading, Action.bind_assoc, handOn_bind]

/-- The failure of a result. -/
def fault? {α : Type} : Except Failure α → Option Failure
  | .ok _ => none
  | .error f => some f

/-- What converting a text gives, behind the message that announces it. -/
def htmlOf (h : Host ω) (t : Text) (w : ω) : Except Failure Text :=
  (Markdown.render h t (h.log .debug "Converting file content to HTML...".toList w).2).1

/-- The stage is run and ends, with a failure or without. Each stage is run on what the stages in
front of it have handed on, in the world that they have left. -/
def Ends (h : Host ω) (j : Job) (w : World ω) : Stage → Option Failure → Prop
  | .reading, e => fault? (w.drive.readText j.source) = e
  | .converting, e => ∃ t v, reading h j w = (.ok (.ok t), v) ∧
      fault? (htmlOf h t v.outside) = e
  | .rendering, e => ∃ html v, converting h j w = (.ok (.ok html), v) ∧
      fault? (framed h j.options html v.outside).1 = e
  | .writing, e => ∃ page v place, rendering h j w = (.ok (.ok page), v) ∧
      j.destination = some place ∧ fault? (v.drive.write place (Utf8.encode page)) = e

section Over

variable {ω' : Type} {π : ω' → ω} {h' : Host ω'}

theorem handOn_over {α β : Type} {k' : α → Action (World ω') (Except Outcome β)}
    {k : α → Action (World ω) (Except Outcome β)}
    (hk : ∀ x, Action.Over (World.map π) (k' x) (k x)) (r : Except Outcome α) :
    Action.Over (World.map π) (handOn r k') (handOn r k) := by
  cases r with
  | error o => exact Action.over_result _
  | ok x => exact hk x

theorem reading_over (ho : Host.Over π h' h) (j : Job) :
    Action.Over (World.map π) (reading h' j) (reading h j) := (read_over ho j).bind (loaded_over ho)

theorem converting_over (ho : Host.Over π h' h) (j : Job) :
    Action.Over (World.map π) (converting h' j) (converting h j) :=
  (reading_over ho j).bind (handOn_over (fragment_over ho))

theorem rendering_over (ho : Host.Over π h' h) (j : Job) :
    Action.Over (World.map π) (rendering h' j) (rendering h j) :=
  (converting_over ho j).bind (handOn_over (page_over ho j.options))

theorem framed_over (ho : Host.Over π h' h) (o : Options) (html : Text) :
    Action.Over π (framed h' o html) (framed h o html) := by
  unfold framed
  split
  · exact Action.over_result html
  · exact Page.render_over ho _

theorem htmlOf_over (ho : Host.Over π h' h) (t : Text) (w : ω') :
    htmlOf h t (π w) = htmlOf h' t w := by
  simp only [htmlOf, ho.2 _ _ w, Markdown.render_over ho t _]

/-- What an action hands on is the same through a projection. -/
theorem exists_over_iff {α : Type} {a' : Action (World ω') (Except Outcome α)}
    {a : Action (World ω) (Except Outcome α)} (ha : Action.Over (World.map π) a' a)
    (w : World ω') (p : α → World ω → Prop) :
    (∃ x v, a (w.map π) = (.ok (.ok x), v) ∧ p x v) ↔
      ∃ x v, a' w = (.ok (.ok x), v) ∧ p x (v.map π) := by
  rw [ha w]
  constructor
  · rintro ⟨x, v, hx, hp⟩
    obtain ⟨hresult, rfl⟩ := Prod.mk.inj hx
    exact ⟨x, (a' w).2, Prod.ext hresult rfl, hp⟩
  · rintro ⟨x, v, hx, hp⟩
    exact ⟨x, v.map π, by rw [hx], hp⟩

/-- The stages end in the same way with a host that has more behind it. -/
theorem ends_over (ho : Host.Over π h' h) (j : Job) (w : World ω') (s : Stage)
    (e : Option Failure) : Ends h j (w.map π) s e ↔ Ends h' j w s e := by
  cases s with
  | reading => exact Iff.rfl
  | converting =>
    refine (exists_over_iff (reading_over ho j) w _).trans ?_
    refine exists_congr fun t => exists_congr fun v => and_congr_right fun _ => ?_
    simp only [World.map, htmlOf_over ho]
  | rendering =>
    refine (exists_over_iff (converting_over ho j) w _).trans ?_
    refine exists_congr fun html => exists_congr fun v => and_congr_right fun _ => ?_
    simp only [World.map, framed_over ho j.options html v.outside]
  | writing =>
    have hpage := exists_over_iff (rendering_over ho j) w fun page v => ∃ place,
      j.destination = some place ∧ fault? (v.drive.write place (Utf8.encode page)) = e
    simpa only [Ends, exists_and_left, World.map] using hpage

end Over

end Job

end MathPage
