import MathPage.Proofs.Conversion.Gate
import MathPage.Proofs.Equation.Messages

/-!
# What a conversion tells the logger

* `Stage.success?`, `Stage.complaint` – what the logger is told of a stage that has succeeded or
  failed;
* `Job.Message` – everything else that the logger is told;
* `Conversion.records` – what the conversion tells the logger, in a list of events;
* `Conversion.Accounts` – events that tell the success of given stages and no failure.

The checks, the conversion of a text and its page send messages of the second kind only, none of
which can be taken for one about a stage (`Job.Message.not_mem_successes`).
-/

namespace MathPage

variable {ω : Type} {h : Host ω}

namespace Stage

/-- The stages in their order. -/
def all : List Stage := [.reading, .converting, .rendering, .writing]

/-- What is said of a stage that has succeeded. -/
def success? : Stage → Option Text
  | .reading => some "Successfully read file.".toList
  | .converting => some "Successfully converted file content to HTML.".toList
  | .rendering => none
  | .writing => some "Successfully wrote to file.".toList

/-- What is said of a stage that has failed. -/
def complaint (s : Stage) (f : Failure) : Text :=
  "Encountered an error when ".toList ++ s.activity ++ ": ".toList ++ f.message

/-- The messages of success. -/
def successes : List Text := all.filterMap success?

end Stage

/-! ### Messages that say nothing of an end -/

namespace Job

/-- The messages of a conversion that are no verdict on a stage. -/
inductive Message : Text → Prop where
  | current (p : Place) : Message ("Current working directory: ".toList ++ p.toText)
  | source (p : Place) : Message ("Source filepath: ".toList ++ p.toText)
  | destination (p : Place) : Message ("Destination filepath: ".toList ++ p.toText)
  | reading : Message "Reading file...".toList
  | converting : Message "Converting file content to HTML...".toList
  | characters (n : ℕ) :
    Message ("Converting ".toList ++ Text.decimal n ++ " characters of Markdown...".toList)
  | pass {t : Text} (ht : Pass.Message t) : Message t
  | rendering : Message "Rendering...".toList
  | rendered : Message "Finished rendering.".toList
  | writing : Message "Writing to file...".toList

/-- Messages of success open with two letters that no other message opens with. -/
theorem take_of_mem_successes {t : Text} (ht : t ∈ Stage.successes) : t.take 2 = ['S', 'u'] := by
  simp only [Stage.successes, Stage.all, List.filterMap_cons, List.filterMap_nil, Stage.success?,
    List.mem_cons, List.not_mem_nil, or_false] at ht
  obtain rfl | rfl | rfl := ht <;> rfl

theorem Message.not_mem_successes {t : Text} (ht : Message t) : t ∉ Stage.successes := by
  intro hs
  have htake := take_of_mem_successes hs
  cases ht with
  | pass hp => cases hp <;> exact absurd htake (by simp)
  | _ => exact absurd htake (by simp)

theorem prepare_tells (h : Host ω) (current : Place) (file : Value)
    (options : Except Options.Refusal Options) :
    h.Tells Message id (prepare h current file options) := by
  unfold prepare
  cases filePath? file with
  | none => exact Host.tells_ofExcept (.error _)
  | some path =>
    cases options with
    | error r => exact Host.tells_ofExcept (.error _)
    | ok o =>
      refine (Host.tells_log (.current current)).bind fun _ => (Host.tells_ofExcept _).bind
        fun source => (Host.tells_log (.source source)).bind fun _ => Host.Tells.bind ?_
          fun _ => Host.tells_pure _
      unfold locateDestination
      cases o.destination? with
      | none => exact Host.tells_pure none
      | some d =>
        exact (Host.tells_ofExcept _).bind fun place =>
          (Host.tells_log (.destination place)).bind fun _ => Host.tells_pure _

theorem render_tells (h : Host ω) (t : Text) : h.Tells Message id (Markdown.render h t) := by
  refine (Host.tells_log (.characters _)).bind fun _ w => ?_
  show h.Told Message w (Markdown.convert .extended h t { outside := w }).2.outside
  unfold Markdown.convert
  split
  · exact .refl w
  cases Markdown.tree .extended t {} {} with
  | error f => exact .refl w
  | ok made =>
    obtain ⟨root, defs, stash⟩ := made
    have hpass := (Pass.run_told h root ⟨stash, w⟩).mono fun _ => Message.pass
    simp only
    split <;> exact hpass

theorem framed_tells (h : Host ω) (o : Options) (html : Text) :
    h.Tells Message id (framed h o html) := by
  unfold framed
  split
  · exact Host.tells_pure html
  · exact (Host.tells_log .rendering).bind fun _ => (Host.tells_log .rendered).bind
      fun _ => Host.tells_pure _

end Job

namespace Conversion

/-! ### Records -/

/-- What the logger is told in an event. -/
def Event.record? : Event → Option (Severity × Text)
  | .said severity t => some (severity, t)
  | .asked _ | .handed _ _ => none

/-- What the conversion tells the logger in events. A logger that others write to receives more
(`Received`). -/
def records (es : List Event) : List (Severity × Text) := es.filterMap Event.record?

theorem records_append (es es' : List Event) : records (es ++ es') = records es ++ records es' :=
  List.filterMap_append

/-- The verdict on a stage, as far as one is given. -/
def ended (s : Stage) : Option Failure → List Event
  | none => s.success?.toList.map (.said .debug)
  | some f => [.said .error (s.complaint f)]

/-- Events that are no verdict on a stage. -/
inductive Event.IsAside : Event → Prop where
  | asked (e : Equation) : IsAside (.asked e)
  | said {t : Text} (ht : Job.Message t) : IsAside (.said .debug t)

/-- Apart from calls of the renderer there are debug messages only, and those of success are about
the given stages, once each and in their order. -/
def Accounts (done : List Stage) (es : List Event) : Prop :=
  ∃ notes : List Text, records es = notes.map (Prod.mk .debug) ∧
    notes.filter (· ∈ Stage.successes) = done.filterMap Stage.success?

theorem Accounts.append {done done' : List Stage} {es es' : List Event} (he : Accounts done es)
    (he' : Accounts done' es') : Accounts (done ++ done') (es ++ es') := by
  obtain ⟨notes, hnotes, hdone⟩ := he
  obtain ⟨notes', hnotes', hdone'⟩ := he'
  refine ⟨notes ++ notes', ?_, ?_⟩
  · rw [records_append, hnotes, hnotes', List.map_append]
  · rw [List.filter_append, hdone, hdone', List.filterMap_append]

theorem accounts_of_asides {es : List Event} (hes : ∀ e ∈ es, e.IsAside) : Accounts [] es := by
  induction es with
  | nil => exact ⟨[], rfl, rfl⟩
  | cons e es ih =>
    obtain ⟨notes, hnotes, hdone⟩ := ih fun e' he' => hes e' (List.mem_cons_of_mem e he')
    cases hes e List.mem_cons_self with
    | asked e => exact ⟨notes, hnotes, hdone⟩
    | @said t ht =>
      refine ⟨t :: notes, congrArg ((Severity.debug, t) :: ·) hnotes, ?_⟩
      rwa [List.filter_cons_of_neg (by simpa using ht.not_mem_successes)]

theorem accounts_ended (s : Stage) : Accounts [s] (ended s none) := by
  cases s with
  | rendering => exact ⟨[], rfl, rfl⟩
  | reading | converting | writing => exact ⟨_, (rfl : records _ = [_].map _), by decide⟩

/-- What a host is told without a verdict is written down as asides. -/
theorem exists_asides {w v : ω × List Event} (ht : h.observed.Told Job.Message w v) :
    ∃ es, v.2 = w.2 ++ es ∧ ∀ e ∈ es, e.IsAside := by
  induction ht with
  | refl => exact ⟨[], (List.append_nil _).symm, by simp⟩
  | @asked v e _ ih =>
    obtain ⟨es, hv, hes⟩ := ih
    refine ⟨es ++ [.asked e], ?_, ?_⟩
    · show v.2 ++ _ = _
      rw [hv, List.append_assoc]
    · simpa [or_imp, forall_and] using ⟨hes, Event.IsAside.asked e⟩
  | @said v t ht _ ih =>
    obtain ⟨es, hv, hes⟩ := ih
    refine ⟨es ++ [.said .debug t], ?_, ?_⟩
    · show v.2 ++ _ = _
      rw [hv, List.append_assoc]
    · simpa [or_imp, forall_and] using ⟨hes, Event.IsAside.said ht⟩

end Conversion

end MathPage
