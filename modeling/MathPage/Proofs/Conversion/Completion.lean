import MathPage.Conversion.Completion

/-!
# A completion delivers once

`settle`, `fail` and `succeed` are three ways into one guard. A caller may mix them as it likes:

* `Delivery` – one call, with what it carries; `Delivery.outcome`, the outcome it is about;
* `deliveries` – calls made one after the other on one completion: what each of them answers, and
  what they leave;
* `deliveries_settled` – a completion that has delivered refuses all of them, and keeps its outcome;
* `deliveries_once` – on a new completion the first call is answered with the outcome it stores, and
  that outcome stays, whatever the calls after it carry.
-/

namespace MathPage

namespace Completion

/-- A call of a completion: with an outcome, with a failure, or with the parts of a success. -/
inductive Delivery where
  | settle (o : Outcome)
  | fail (f : Failure)
  | succeed (html : Option Text) (out : Option Path)

namespace Delivery

/-- What a call carries, as an outcome. -/
def outcome : Delivery → Outcome
  | settle o => o
  | fail f => { error := some f }
  | succeed html out => { html := html, out := out }

/-- What a call does. -/
def made : Delivery → Action Completion Outcome
  | settle o => Completion.settle o
  | fail f => Completion.fail f
  | succeed html out => Completion.succeed html out

/-- All three ways in settle, each with its own outcome. -/
theorem made_eq (d : Delivery) : d.made = Completion.settle d.outcome := by
  cases d <;> rfl

/-- A completion without an outcome takes the one of the call. -/
theorem made_unsettled (d : Delivery) {c : Completion} (hc : c.result = none) :
    d.made c = (.ok d.outcome, ⟨some d.outcome⟩) := by
  rw [made_eq]
  simp only [Completion.settle, hc]

/-- A completion with an outcome refuses the call and stays as it is. -/
theorem made_settled (d : Delivery) {c : Completion} {o : Outcome} (hc : c.result = some o) :
    d.made c = (.error .delivered, c) := by
  rw [made_eq]
  simp only [Completion.settle, hc]

end Delivery

/-- Calls, one after the other on one completion: their answers, and what they leave. A caller that
is refused goes on with the next call. -/
def deliveries : List Delivery → Completion → List (Except Failure Outcome) × Completion
  | [], c => ([], c)
  | d :: ds, c =>
    let (answer, c₁) := d.made c
    let (answers, c₂) := deliveries ds c₁
    (answer :: answers, c₂)

theorem deliveries_cons (d : Delivery) (ds : List Delivery) (c : Completion) :
    deliveries (d :: ds) c =
      ((d.made c).1 :: (deliveries ds (d.made c).2).1, (deliveries ds (d.made c).2).2) :=
  rfl

/-- Once a completion has delivered, every call is refused, and the outcome is the one it was. -/
theorem deliveries_settled (ds : List Delivery) {c : Completion} {o : Outcome}
    (hc : c.result = some o) :
    deliveries ds c = (ds.map fun _ => .error .delivered, c) := by
  induction ds with
  | nil => rfl
  | cons d ds ih => rw [deliveries_cons, d.made_settled hc, ih, List.map_cons]

/-- The first call on a completion without an outcome settles it for all calls after it. -/
theorem deliveries_unsettled (d : Delivery) (ds : List Delivery) {c : Completion}
    (hc : c.result = none) :
    deliveries (d :: ds) c =
      (.ok d.outcome :: ds.map fun _ => .error .delivered, ⟨some d.outcome⟩) := by
  rw [deliveries_cons, d.made_unsettled hc, deliveries_settled ds rfl]

/-- What calls leave of a new completion: the outcome of the first of them, if there is one. -/
theorem deliveries_result (ds : List Delivery) :
    (deliveries ds {}).2.result = ds.head?.map Delivery.outcome := by
  cases ds with
  | nil => rfl
  | cons d ds => rw [deliveries_unsettled d ds rfl]; rfl

/-- Whatever calls are made on a new completion, the first is answered with the outcome it carries
and every later one is refused; after any number of them the completion is settled exactly if one
has been made, and its outcome is that of the first. -/
theorem deliveries_once (ds : List Delivery) :
    ((deliveries ds {}).1 = match ds with
      | [] => []
      | first :: later => .ok first.outcome :: later.map fun _ => .error .delivered) ∧
    ∀ n, ((deliveries (ds.take n) {}).2.settled = true ↔ ds.take n ≠ []) ∧
      (deliveries (ds.take n) {}).2.result = (ds.take n).head?.map Delivery.outcome := by
  refine ⟨?_, fun n => ⟨?_, deliveries_result _⟩⟩
  · cases ds with
    | nil => rfl
    | cons first later => rw [deliveries_unsettled first later rfl]
  · rw [settled, deliveries_result, Option.isSome_map, List.isSome_head?]

end Completion

end MathPage
