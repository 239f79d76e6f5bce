import Rflow.Foundation.Bulletin
import Rflow.Runtime.Projection

/-!
# The event bus of the application

The supervisor and its session publish notifications through one bus.  A notification is folded into
the snapshot before it is passed on, and the application reads the snapshot again after each
notification that it receives.
-/

namespace Rflow

open Foundation

/-- The tasks that publish notifications. -/
inductive Publisher where
  | supervisor
  | session
  deriving DecidableEq

instance : Fintype Publisher where
  elems := {.supervisor, .session}
  complete publisher := by cases publisher <;> decide

/-- A notification, with the task that publishes it; nothing reads the task. -/
abbrev Published := Publisher × AppEvent

abbrev AppEventBus := Bulletin RuntimeSnapshot Published Publisher 128

inductive BusInput where
  /-- A task folds a notification in, and waits until it has passed it on. -/
  | send (publisher : Publisher) (event : AppEvent)
  /-- A task folds a notification in, and passes it on if there is room. -/
  | trySend (publisher : Publisher) (event : AppEvent)
  | pass (publisher : Publisher)
  | giveUp (publisher : Publisher)
  /-- The application receives the next notification. -/
  | nextEvent
  /-- The application reads the snapshot. -/
  | snapshot

namespace BusInput

def bulletin : BusInput → BulletinInput Published Publisher
  | .send publisher event => .publish publisher ⟨(publisher, event), true⟩
  | .trySend publisher event => .publish publisher ⟨(publisher, event), false⟩
  | .pass publisher => .pass publisher
  | .giveUp publisher => .giveUp publisher
  | .nextEvent => .take
  | .snapshot => .look

/-- The notification that is folded in. -/
def event : BusInput → Option AppEvent
  | .send _ event | .trySend _ event => some event
  | _ => none

/-- The notification that a task begins to send. -/
def sentBy (publisher : Publisher) : BusInput → Option AppEvent
  | .send sender event => if sender = publisher then some event else none
  | _ => none

end BusInput

namespace AppEventBus

def apply (snapshot : RuntimeSnapshot) (published : Published) : RuntimeSnapshot :=
  snapshot.apply published.2

def step : Machine.Step AppEventBus BusInput (BulletinOutput Published) Unit :=
  fun bus input => Bulletin.step apply bus input.bulletin

/-- The bus of a runtime that is launched. -/
def launched : AppEventBus := Bulletin.start default

/-- A task publishes notifications of a kind, and no others. -/
def fromTask (publisher : Publisher) (kind : AppEvent → Bool) (published : Published) : Bool :=
  published.1 = publisher && kind published.2

variable {bus final : AppEventBus} {inputs : List BusInput}
  {outputs : List (BulletinOutput Published)}

theorem run_eq : Machine.run step bus inputs =
    Machine.run (Bulletin.step apply) bus (inputs.map BusInput.bulletin) :=
  @Machine.run_map _ _ _ _ (Bulletin.step apply) _ BusInput.bulletin bus inputs

theorem foldl_apply (snapshot : RuntimeSnapshot) :
    ((inputs.map BusInput.bulletin).filterMap BulletinInput.published).foldl apply snapshot =
      snapshot.observe (inputs.filterMap BusInput.event) := by
  induction inputs generalizing snapshot with
  | nil => rfl
  | cons input inputs induction => cases input <;> exact induction _

/-- Whatever the tasks publish and whichever notifications are lost: an application that reads the
snapshot after each notification has seen all that was published when nothing is under way. -/
theorem copy_current (ran : Machine.run step launched inputs = .ok (outputs, final))
    (quiet : final.Quiet) :
    final.copy = RuntimeSnapshot.observe default (inputs.filterMap BusInput.event) := by
  rw [run_eq] at ran
  rw [Bulletin.copy_of_quiet (by decide) ran quiet, Bulletin.value_of_run ran, foldl_apply]
  rfl

/-- A full channel loses a notification, and the application sees its effect. -/
theorem copy_current_after_loss : ∃ inputs outputs final,
    Machine.run step launched inputs = .ok (outputs, final) ∧
      BulletinOutput.lost (.session, .controlChanged .remoteControl) ∈ outputs ∧
      final.copy = RuntimeSnapshot.observe default (inputs.filterMap BusInput.event) := by
  let inputs : List BusInput :=
    (List.replicate 128 [.send .supervisor (.peerChanged none), .pass .supervisor]).flatten ++
      [.trySend .session (.controlChanged .remoteControl), .giveUp .session] ++
      List.replicate 128 .nextEvent ++ [.snapshot]
  have ran : ((Machine.run step launched inputs).any fun result => decide
      (BulletinOutput.lost (.session, .controlChanged .remoteControl) ∈ result.1 ∧
        result.2.queue.messages = [] ∧ (∀ publisher, result.2.passing publisher = none) ∧
        result.2.looked = true)) = true := by decide +kernel
  obtain ⟨⟨outputs, final⟩, ran, facts⟩ := Outcome.any_eq_true.mp ran
  obtain ⟨lost, taken, passed, looked⟩ := of_decide_eq_true facts
  exact ⟨inputs, outputs, final, ran, lost, copy_current ran ⟨taken, passed, looked⟩⟩

theorem published_sentBy {publisher : Publisher} {kind : AppEvent → Bool}
    (waits : ∀ event, .trySend publisher event ∈ inputs → kind event = false) :
    ((inputs.map BusInput.bulletin).filterMap BulletinInput.published).filter
        (fromTask publisher kind) =
      ((inputs.filterMap (BusInput.sentBy publisher)).filter kind).map (Prod.mk publisher) := by
  induction inputs with
  | nil => rfl
  | cons input inputs induction =>
      have later := induction fun event member => waits event (List.mem_cons_of_mem _ member)
      cases input with
      | send sender event =>
          by_cases same : sender = publisher <;> cases isKind : kind event <;>
            simp_all [BusInput.bulletin, BulletinInput.published, fromTask, BusInput.sentBy]
      | trySend sender event =>
          have other : fromTask publisher kind (sender, event) = false := by
            by_cases same : sender = publisher
            · simp [fromTask, waits event (same ▸ List.mem_cons_self)]
            · simp [fromTask, same]
          rw [List.map_cons, List.filterMap_cons, List.filterMap_cons]
          simpa [BusInput.bulletin, BulletinInput.published, BusInput.sentBy, other] using later
      | pass | giveUp | nextEvent | snapshot => exact later

/-- The notifications of a kind for which a task always waits are received in the order in which the
task sends them, and none of them is lost. -/
theorem sent_in_order {publisher : Publisher} {kind : AppEvent → Bool}
    (waits : ∀ event, .trySend publisher event ∈ inputs → kind event = false)
    (ran : Machine.run step launched inputs = .ok (outputs, final)) :
    (outputs.filterMap BulletinOutput.taken).filter (fromTask publisher kind) ++
        (final.underway publisher).filter (fromTask publisher kind) =
      ((inputs.filterMap (BusInput.sentBy publisher)).filter kind).map (Prod.mk publisher) := by
  have patient : ∀ input ∈ inputs.map BusInput.bulletin,
      Bulletin.Patient (fromTask publisher kind) publisher input := by
    intro input member
    obtain ⟨own, made, rfl⟩ := List.mem_map.mp member
    cases own with
    | send sender event =>
        intro isKind
        have sender : sender = publisher := by
          simp only [fromTask, Bool.and_eq_true, decide_eq_true_eq] at isKind
          exact isKind.1
        exact ⟨sender, rfl⟩
    | trySend sender event =>
        intro isKind
        simp only [fromTask, Bool.and_eq_true, decide_eq_true_eq] at isKind
        obtain ⟨rfl, isKind⟩ := isKind
        cases (waits event made).symm.trans isKind
    | pass | giveUp | nextEvent | snapshot => trivial
  rw [run_eq] at ran
  rw [Bulletin.taken_in_order patient ran, published_sentBy waits]

/-- The statuses of a session arrive, whatever the supervisor says in between. -/
theorem sent_in_order_statuses : ∃ inputs outputs final,
    Machine.run step launched inputs = .ok (outputs, final) ∧
      (outputs.filterMap BulletinOutput.taken).filter
          (fromTask .session (· ≠ .controlChanged .localControl)) ++
        (final.underway .session).filter
          (fromTask .session (· ≠ .controlChanged .localControl)) =
        [(.session, .statusChanged .listening), (.session, .statusChanged .connected)] := by
  let inputs : List BusInput :=
    [.send .session (.statusChanged .listening), .send .supervisor (.statusChanged .stopping),
      .pass .supervisor, .pass .session, .trySend .session (.controlChanged .localControl),
      .pass .session, .nextEvent, .nextEvent, .send .session (.statusChanged .connected)]
  have waits : ∀ event, .trySend .session event ∈ inputs →
      decide (event ≠ .controlChanged .localControl) = false := by
    intro event member
    simp only [inputs, List.mem_cons, reduceCtorEq, BusInput.trySend.injEq, List.not_mem_nil,
      or_false, false_or, true_and] at member
    simp [member]
  obtain ⟨result, ran⟩ : ∃ result, Machine.run step launched inputs = .ok result := ⟨_, rfl⟩
  exact ⟨inputs, result.1, result.2, ran, sent_in_order waits ran⟩

end AppEventBus
end Rflow
