import Rflow.Input.Capture

/-!
# What becomes of captured input

Keys, buttons and scrolls of a device reach the host in the order in which the device reports them,
each of them once.  Pointer motion does so only as far as the host keeps up.
-/

namespace Rflow

open Foundation

/-! ## What a device reports -/

/-- An event of the pointer that is added up. -/
def RawEvent.Moves (event : RawEvent) : Prop :=
  event.eventType = evRel ∧ (event.code = relX ∨ event.code = relY)

instance (event : RawEvent) : Decidable event.Moves := inferInstanceAs (Decidable (_ ∧ _))

/-- The key, button or scroll that an event stands for. -/
def RawEvent.input (event : RawEvent) : Option InputEvent :=
  if event.Moves then
    none
  else
    match decodeNativeInput event.eventType event.code event.value with
    | .ok input => some input
    | _ => none

namespace Batch

/-- The keys, buttons and scrolls still to be passed on. -/
def inputs (batch : Batch) : List InputEvent := batch.events.filterMap RawEvent.input

/-- Add the motion of an event to that of the events before it. -/
def add (sum : Int × Int) (event : RawEvent) : Int × Int :=
  if event.eventType = evRel ∧ event.code = relX then (saturatingAdd sum.1 event.value, sum.2)
  else if event.eventType = evRel ∧ event.code = relY then (sum.1, saturatingAdd sum.2 event.value)
  else sum

/-- The motion of a whole batch. -/
def total (batch : Batch) : Int × Int := batch.events.foldl add (batch.dx, batch.dy)

/-- The motion that is passed on, unless the batch does not move the pointer. -/
def motions (batch : Batch) : List (Int × Int) :=
  if batch.total = (0, 0) then [] else [batch.total]

end Batch

namespace CaptureThread

/-- The keys, buttons and scrolls that a thread has still to send. -/
def inputs : CaptureThread → List InputEvent
  | polling | fetching | ended => []
  | running batch => batch.inputs
  | calling event batch => (event.reliable.map (·.event)).toList ++ batch.inputs

/-- The motion that a thread has still to publish. -/
def motions : CaptureThread → List (Int × Int)
  | polling | fetching | ended => []
  | running batch | calling (.input ..) batch => batch.motions
  | calling (.motion _ _ _ dx dy) batch => (dx, dy) :: batch.motions

end CaptureThread

/-- A batch of this device as it is read. -/
def CaptureInput.batchOf {devices : Nat} (source : Fin devices) :
    CaptureInput devices → Option Batch
  | .fetch device events =>
      if device = source then some { events, dx := 0, dy := 0 } else none
  | _ => none

namespace CaptureOutput

/-- The input that the host receives from a device. -/
def inputsFrom (source : Nat) : CaptureOutput → List InputEvent
  | captured taken => if taken.source = source then [taken.event] else []
  | _ => []

/-- The motion that a device publishes. -/
def motionsFrom (source : Nat) : CaptureOutput → List (Int × Int)
  | called (.motion device _ _ dx dy) => if device = source then [(dx, dy)] else []
  | _ => []

/-- The motion that is published by any device. -/
def published : CaptureOutput → List (Nat × Motion)
  | called (.motion source sequence timestampMicros dx dy) =>
      [(source, { sequence, timestampMicros, dx, dy })]
  | _ => []

/-- The motion that the host sees. -/
def seen : CaptureOutput → List (Nat × Motion)
  | moved source motion => [(source, motion)]
  | _ => []

end CaptureOutput

namespace Capture

variable {devices : Nat} {capture next : Capture devices} {input : CaptureInput devices}
  {outputs : List CaptureOutput} {source other : Fin devices}

/-- The input of a device that the host has still to receive. -/
def queued (capture : Capture devices) (source : Nat) : List InputEvent :=
  (capture.reliable.messages.filter (·.source = source)).map (·.event)

/-- The input of a device on its way. -/
def underway (source : Fin devices) (capture : Capture devices) : List InputEvent :=
  capture.queued source ++ (capture.threads source).inputs

/-- The motion that the host has still to see. -/
def unseen (capture : Capture devices) : List (Nat × Motion) := capture.motion.waiting.reduceOption

/-- No thread publishes a motion over one that the host has not seen. -/
def Caught (capture : Capture devices) : CaptureInput devices → Prop
  | .call source =>
      ∀ device sequence timestampMicros dx dy batch,
        capture.threads source = .calling (.motion device sequence timestampMicros dx dy) batch →
          capture.unseen = []
  | _ => True

/-- Every thread hands its events over under its own number. -/
def Labelled (capture : Capture devices) : Prop :=
  ∀ source event batch, capture.threads source = .calling event batch → event.source = source

/-! ## Steps of a thread -/

/-- What one step through a batch does. -/
inductive Looks (source sequence timestampMicros : Nat) : Batch → CaptureThread → Nat → Prop
  | added {event : RawEvent} {events : List RawEvent} {dx dy : Int} (moves : event.Moves) :
      Looks source sequence timestampMicros { events := event :: events, dx, dy }
        (.running
          { events, dx := (Batch.add (dx, dy) event).1, dy := (Batch.add (dx, dy) event).2 })
        sequence
  | handed {event : RawEvent} {events : List RawEvent} {dx dy : Int} (stays : ¬ event.Moves) :
      Looks source sequence timestampMicros { events := event :: events, dx, dy }
        (.calling (.input source (wrappingSucc sequence) event.eventType event.code event.value)
          { events, dx, dy })
        (wrappingSucc sequence)
  | skipped {event : RawEvent} {events : List RawEvent} {dx dy : Int} (stays : ¬ event.Moves)
      (unknown : event.input = none) :
      Looks source sequence timestampMicros { events := event :: events, dx, dy }
        (.running { events, dx, dy }) sequence
  | published {dx dy : Int} (moved : (dx, dy) ≠ (0, 0)) :
      Looks source sequence timestampMicros { events := [], dx, dy }
        (.calling (.motion source (wrappingSucc sequence) timestampMicros dx dy)
          { events := [], dx := 0, dy := 0 })
        (wrappingSucc sequence)
  | finished :
      Looks source sequence timestampMicros { events := [], dx := 0, dy := 0 } .polling sequence

variable {number sequence newSequence timestampMicros : Nat} {batch : Batch}
  {thread : CaptureThread}

theorem look_looks (looked : look number sequence timestampMicros batch = (thread, newSequence)) :
    Looks number sequence timestampMicros batch thread newSequence := by
  obtain ⟨events, dx, dy⟩ := batch
  cases events with
  | nil =>
      simp only [look] at looked
      split_ifs at looked with moved
      · obtain ⟨rfl, rfl⟩ := Prod.mk.inj looked
        exact .published (by simpa [imp_iff_not_or] using moved)
      · obtain ⟨rfl, rfl⟩ := Prod.mk.inj looked
        obtain ⟨rfl, rfl⟩ : dx = 0 ∧ dy = 0 := by simpa [not_or] using moved
        exact .finished
  | cons event events =>
      simp only [look] at looked
      split_ifs at looked with horizontal vertical known
      · obtain ⟨rfl, rfl⟩ := Prod.mk.inj looked
        have moves : event.Moves := ⟨horizontal.1, Or.inl horizontal.2⟩
        simpa only [Batch.add, if_pos horizontal] using
          @Looks.added number sequence timestampMicros event events dx dy moves
      · obtain ⟨rfl, rfl⟩ := Prod.mk.inj looked
        have moves : event.Moves := ⟨vertical.1, Or.inr vertical.2⟩
        simpa only [Batch.add, if_neg horizontal, if_pos vertical] using
          @Looks.added number sequence timestampMicros event events dx dy moves
      all_goals
        obtain ⟨rfl, rfl⟩ := Prod.mk.inj looked
        have stays : ¬ event.Moves := fun ⟨relative, axis⟩ =>
          axis.elim (fun same => horizontal ⟨relative, same⟩) fun same => vertical ⟨relative, same⟩
      · exact .handed stays
      · refine .skipped stays ?_
        rw [RawEvent.input, if_neg stays]
        obtain ⟨notKey, notRel⟩ := not_or.mp known
        split
        · rename_i decoded
          obtain ⟨isKey, _⟩ | ⟨isRel, _⟩ | ⟨isRel, _⟩ := decodeNativeInput_cases decoded
          · exact absurd isKey notKey
          · exact absurd isRel notRel
          · exact absurd isRel notRel
        · rfl

theorem Looks.event_source {event : NativeCapturedEvent} {rest : Batch}
    (looks : Looks number sequence timestampMicros batch (.calling event rest) newSequence) :
    event.source = number := by
  cases looks <;> rfl

/-- Looking at the next event of a batch leaves what the thread has still to pass on. -/
theorem Looks.inputs (looks : Looks number sequence timestampMicros batch thread newSequence) :
    thread.inputs = batch.inputs := by
  cases looks with
  | added moves =>
      simp [CaptureThread.inputs, Batch.inputs, RawEvent.input, moves]
  | @handed event events dx dy stays =>
      simp only [CaptureThread.inputs, Batch.inputs, List.filterMap_cons, RawEvent.input,
        if_neg stays, NativeCapturedEvent.reliable]
      cases decodeNativeInput event.eventType event.code event.value <;> rfl
  | skipped _ unknown => simp [CaptureThread.inputs, Batch.inputs, unknown]
  | published => rfl
  | finished => rfl

theorem Looks.motions (looks : Looks number sequence timestampMicros batch thread newSequence) :
    thread.motions = batch.motions := by
  have unmoved {event : RawEvent} {events : List RawEvent} {dx dy : Int} (stays : ¬ event.Moves) :
      Batch.motions { events, dx, dy } = Batch.motions { events := event :: events, dx, dy } := by
    have same : Batch.add (dx, dy) event = (dx, dy) := by
      rw [Batch.add, if_neg fun ⟨relative, same⟩ => stays ⟨relative, Or.inl same⟩,
        if_neg fun ⟨relative, same⟩ => stays ⟨relative, Or.inr same⟩]
    rw [Batch.motions, Batch.motions, Batch.total, Batch.total, List.foldl_cons, same]
  cases looks with
  | added => rfl
  | handed stays => exact unmoved stays
  | skipped stays => exact unmoved stays
  | published moved => exact (if_neg moved).symm
  | finished => rfl

theorem start_labelled : (start devices).Labelled := fun _ _ _ calling => by cases calling

theorem Labelled.kept (labelled : capture.Labelled)
    (steps : capture.Steps input outputs next) : next.Labelled := by
  have placed {changed : Capture devices} {mover : Fin devices} {thread : CaptureThread}
      (same : changed.threads = capture.threads)
      (own : ∀ event batch, thread = .calling event batch → event.source = mover) :
      (changed.placing mover thread).Labelled := by
    intro source event batch calling
    by_cases mine : source = mover
    · subst mine
      exact own event batch (placing_threads_self.symm.trans calling)
    · rw [placing_threads_of_ne mine, same] at calling
      exact labelled source event batch calling
  cases steps with
  | polled => exact placed rfl fun _ _ calling => by cases calling
  | fetched => exact placed rfl fun _ _ calling => by cases calling
  | advanced _ looked =>
      refine placed rfl fun event batch calling => ?_
      subst calling
      exact (look_looks looked).event_source
  | called _ callsBack =>
      cases callsBack with
      | ignored => exact placed rfl fun _ _ calling => by cases calling
      | dropped => exact placed rfl fun _ _ calling => by cases calling
      | sent => exact placed rfl fun _ _ calling => by cases calling
      | moved => exact placed rfl fun _ _ calling => by cases calling
  | left => exact placed rfl fun _ _ calling => by cases calling
  | received => exact labelled
  | receivedMotion => exact labelled
  | receivedNone => exact labelled
  | failed => exact labelled
  | stopped => exact labelled

/-! ## Keys, buttons and scrolls -/

theorem reliable_source {event : NativeCapturedEvent} {captured : ReliableCapture}
    (decoded : event.reliable = some captured) : captured.source = event.source := by
  cases event with
  | input number sequence eventType code value =>
      simp only [NativeCapturedEvent.reliable] at decoded
      split at decoded
      · obtain rfl := Option.some.inj decoded
        rfl
      · cases decoded
  | motion => cases decoded

/-- A step of one thread, as far as the input of a device goes. -/
theorem underway_placing {changed : Capture devices} {mover : Fin devices}
    (same : changed.threads = capture.threads) :
    (changed.placing mover thread).underway source =
      changed.queued source ++
        if source = mover then thread.inputs else (capture.threads source).inputs := by
  by_cases mine : source = mover
  · subst mine
    rw [if_pos rfl, underway, placing_threads_self]
    rfl
  · rw [if_neg mine, underway, placing_threads_of_ne mine, same]
    rfl

theorem queued_of_send {captured : ReliableCapture} {reliable : Channel ReliableCapture 256}
    (sent : capture.reliable.send captured = some reliable) (number : Nat) :
    ({ capture with reliable } : Capture devices).queued number =
      capture.queued number ++ if captured.source = number then [captured.event] else [] := by
  simp only [queued, Channel.messages_of_send sent, List.filter_append, List.map_append]
  by_cases same : captured.source = number <;> simp [same]

theorem queued_of_receive {captured : ReliableCapture} {reliable : Channel ReliableCapture 256}
    (received : capture.reliable.receive = some (captured, reliable)) (number : Nat) :
    capture.queued number =
      (if captured.source = number then [captured.event] else []) ++
        ({ capture with reliable } : Capture devices).queued number := by
  simp only [queued, Channel.messages_of_receive received, List.filter_cons]
  by_cases same : captured.source = number <;> simp [same]

/-- Until the host drops the capture, a step neither loses nor repeats nor reorders the input of a
device. -/
theorem Steps.conveys (steps : capture.Steps input outputs next) (labelled : capture.Labelled)
    (going : capture.stopped = false) (source : Fin devices) :
    outputs.flatMap (CaptureOutput.inputsFrom source) ++ next.underway source =
      capture.underway source ++ (input.batchOf source).toList.flatMap Batch.inputs := by
  cases steps with
  | @polled mover polling _ =>
      rw [underway_placing rfl, underway]
      by_cases mine : source = mover
      · subst mine
        simp [CaptureInput.batchOf, polling, CaptureThread.inputs]
      · simp [CaptureInput.batchOf, mine]
  | @fetched mover events fetching =>
      rw [underway_placing rfl, underway]
      by_cases mine : source = mover
      · subst mine
        simp [CaptureInput.batchOf, fetching, CaptureThread.inputs]
      · simp [CaptureInput.batchOf, mine, Ne.symm mine]
  | @advanced mover timestampMicros sequence batch thread running looked =>
      have kept := (look_looks looked).inputs
      rw [underway_placing rfl, underway, kept]
      by_cases mine : source = mover
      · subst mine
        simp [CaptureInput.batchOf, running, CaptureThread.inputs, queued]
      · simp [CaptureInput.batchOf, mine, queued]
  | @called mover event batch after calling callsBack =>
      have label : event.source = mover := labelled mover event batch calling
      cases callsBack with
      | ignored _ unknown =>
          rw [underway_placing rfl, underway]
          by_cases mine : source = mover
          · subst mine
            simp [CaptureInput.batchOf, CaptureOutput.inputsFrom, calling, unknown,
              CaptureThread.inputs]
          · simp [CaptureInput.batchOf, CaptureOutput.inputsFrom, mine]
      | dropped _ stopped => cases going.symm.trans stopped
      | @sent _ captured reliable decoded _ sent =>
          rw [underway_placing rfl, underway, queued_of_send sent, reliable_source decoded, label]
          by_cases mine : source = mover
          · subst mine
            simp [CaptureInput.batchOf, CaptureOutput.inputsFrom, calling, decoded,
              CaptureThread.inputs]
          · simp [CaptureInput.batchOf, CaptureOutput.inputsFrom, mine, Fin.val_inj, Ne.symm mine]
      | moved =>
          rw [underway_placing rfl, underway]
          by_cases mine : source = mover
          · subst mine
            simp [CaptureInput.batchOf, CaptureOutput.inputsFrom, calling,
              NativeCapturedEvent.reliable, CaptureThread.inputs, queued]
          · simp [CaptureInput.batchOf, CaptureOutput.inputsFrom, mine, queued]
  | @left mover idle =>
      rw [underway_placing rfl, underway]
      by_cases mine : source = mover
      · subst mine
        obtain polling | fetching := idle
        · simp [CaptureInput.batchOf, polling, CaptureThread.inputs]
        · simp [CaptureInput.batchOf, fetching, CaptureThread.inputs]
      · simp [CaptureInput.batchOf, mine]
  | received received =>
      simp only [underway, queued_of_receive received, CaptureInput.batchOf,
        CaptureOutput.inputsFrom, List.flatMap_cons, List.flatMap_nil, List.append_nil,
        Option.toList_none, List.append_assoc]
  | receivedMotion => simp [underway, queued, CaptureInput.batchOf, CaptureOutput.inputsFrom]
  | receivedNone => simp [underway, queued, CaptureInput.batchOf]
  | failed reading =>
      obtain rfl | rfl := reading <;> simp [CaptureInput.batchOf, CaptureOutput.inputsFrom]
  | stopped => simp [underway, queued, CaptureInput.batchOf]

/-- A capture that goes on. -/
theorem Steps.going (steps : capture.Steps input outputs next) (going : capture.stopped = false)
    (unstopped : input ≠ .stop) : next.stopped = false := by
  cases steps with
  | polled => exact going
  | fetched => exact going
  | advanced => exact going
  | called _ callsBack => cases callsBack <;> exact going
  | left => exact going
  | received => exact going
  | receivedMotion => exact going
  | receivedNone => exact going
  | failed => exact going
  | stopped => exact absurd rfl unstopped

/-- However the threads of the devices come between each other, and whenever the host reads: the
keys, buttons and scrolls of a device that the host has received, followed by those on their way,
are the ones that the device has reported, in this order. -/
theorem captured_input_in_order {inputs : List (CaptureInput devices)} {final : Capture devices}
    (unstopped : .stop ∉ inputs)
    (ran : Machine.run step (start devices) inputs = .ok (outputs, final)) (source : Fin devices) :
    outputs.flatMap (CaptureOutput.inputsFrom source) ++ final.underway source =
      inputs.flatMap fun input => (input.batchOf source).toList.flatMap Batch.inputs := by
  have conveys {state next : Capture devices} {input : CaptureInput devices}
      {outputs : List CaptureOutput} (invariant : state.Labelled ∧ state.stopped = false)
      (unstopped : input ≠ .stop) (stepped : state.step input = .ok (outputs, next)) :
      (next.Labelled ∧ next.stopped = false) ∧
        outputs.flatMap (CaptureOutput.inputsFrom source) ++ next.underway source =
          state.underway source ++ (input.batchOf source).toList.flatMap Batch.inputs := by
    have steps := step_steps stepped
    exact ⟨⟨invariant.1.kept steps, steps.going invariant.2 unstopped⟩,
      steps.conveys invariant.1 invariant.2 source⟩
  exact Machine.run_conveys conveys ⟨start_labelled, rfl⟩
    (fun input member same => unstopped (same ▸ member)) ran

/-- Two devices at once: the second hands its button over first, and publishes its motion last. -/
def sampleInputs : List (CaptureInput 2) :=
  [.poll 0, .poll 1, .fetch 1 [⟨evRel, relY, 3⟩, ⟨evKey, 272, 1⟩],
    .fetch 0 [⟨evRel, relX, 7⟩, ⟨evKey, 30, 1⟩, ⟨evKey, 30, 0⟩], .advance 1 5, .advance 1 6,
    .advance 0 7, .advance 0 8, .call 1, .call 0, .receive, .advance 0 9, .call 0, .advance 0 10,
    .call 0, .advance 1 11, .call 1, .receiveMotion, .receive]

theorem sampleInputs_run :
    ∃ outputs final, Machine.run step (start 2) sampleInputs = .ok (outputs, final) ∧
      outputs.flatMap (CaptureOutput.inputsFrom 0) = [.key ⟨30⟩ .pressed] ∧
      outputs.flatMap CaptureOutput.published = [(0, ⟨4, 10, 7, 0⟩), (1, ⟨5, 11, 0, 3⟩)] ∧
      outputs.flatMap CaptureOutput.seen = [(1, ⟨5, 11, 0, 3⟩)] ∧ final.unseen = [] := by
  have ran : ((Machine.run step (start 2) sampleInputs).any fun result =>
      decide (result.1.flatMap (CaptureOutput.inputsFrom 0) = [.key ⟨30⟩ .pressed] ∧
        result.1.flatMap CaptureOutput.published = [(0, ⟨4, 10, 7, 0⟩), (1, ⟨5, 11, 0, 3⟩)] ∧
        result.1.flatMap CaptureOutput.seen = [(1, ⟨5, 11, 0, 3⟩)] ∧ result.2.unseen = [])) =
      true := by decide
  obtain ⟨⟨outputs, final⟩, ran, facts⟩ := Outcome.any_eq_true.mp ran
  exact ⟨outputs, final, ran, of_decide_eq_true facts⟩

/-- The second key of the first device is still in the channel. -/
theorem captured_input_in_order_at_once :
    ∃ outputs final, Machine.run step (start 2) sampleInputs = .ok (outputs, final) ∧
      outputs.flatMap (CaptureOutput.inputsFrom 0) = [.key ⟨30⟩ .pressed] ∧
      outputs.flatMap (CaptureOutput.inputsFrom 0) ++ final.underway 0 =
        [.key ⟨30⟩ .pressed, .key ⟨30⟩ .released] := by
  obtain ⟨outputs, final, ran, received, _⟩ := sampleInputs_run
  exact ⟨outputs, final, ran, received,
    (captured_input_in_order (by decide) ran 0).trans (by decide)⟩

/-! ## Pointer motion -/

/-- A step of one thread, as far as the motion of a device goes. -/
theorem motions_placing {changed : Capture devices} {mover : Fin devices}
    (same : changed.threads = capture.threads) :
    ((changed.placing mover thread).threads source).motions =
      if source = mover then thread.motions else (capture.threads source).motions := by
  by_cases mine : source = mover
  · subst mine
    rw [if_pos rfl, placing_threads_self]
  · rw [if_neg mine, placing_threads_of_ne mine, same]

/-- A step neither loses nor repeats nor reorders the motion that a device publishes. -/
theorem Steps.conveysMotion (steps : capture.Steps input outputs next) (labelled : capture.Labelled)
    (source : Fin devices) :
    outputs.flatMap (CaptureOutput.motionsFrom source) ++ (next.threads source).motions =
      (capture.threads source).motions ++
        (input.batchOf source).toList.flatMap Batch.motions := by
  cases steps with
  | @polled mover polling _ =>
      rw [motions_placing rfl]
      by_cases mine : source = mover
      · subst mine
        simp [CaptureInput.batchOf, polling, CaptureThread.motions]
      · simp [CaptureInput.batchOf, mine]
  | @fetched mover events fetching =>
      rw [motions_placing rfl]
      by_cases mine : source = mover
      · subst mine
        simp [CaptureInput.batchOf, fetching, CaptureThread.motions]
      · simp [CaptureInput.batchOf, mine, Ne.symm mine]
  | @advanced mover timestampMicros sequence batch thread running looked =>
      have kept := (look_looks looked).motions
      rw [motions_placing rfl, kept]
      by_cases mine : source = mover
      · subst mine
        simp [CaptureInput.batchOf, running, CaptureThread.motions]
      · simp [CaptureInput.batchOf, mine]
  | @called mover event batch after calling callsBack =>
      have label : event.source = mover := labelled mover event batch calling
      have same : after.threads = capture.threads := by cases callsBack <;> rfl
      rw [motions_placing same]
      by_cases mine : source = mover
      · subst mine
        cases event with
        | input => simp [CaptureInput.batchOf, CaptureOutput.motionsFrom, calling,
            CaptureThread.motions]
        | motion number sequence timestampMicros dx dy =>
            have mineToo : number = source := label
            simp [CaptureInput.batchOf, CaptureOutput.motionsFrom, calling, CaptureThread.motions,
              mineToo]
      · cases event with
        | input => simp [CaptureInput.batchOf, CaptureOutput.motionsFrom, mine]
        | motion number sequence timestampMicros dx dy =>
            have otherToo : number ≠ source := fun same =>
              mine (Fin.ext (same.symm.trans label))
            simp [CaptureInput.batchOf, CaptureOutput.motionsFrom, mine, otherToo]
  | @left mover idle =>
      rw [motions_placing rfl]
      by_cases mine : source = mover
      · subst mine
        obtain polling | fetching := idle
        · simp [CaptureInput.batchOf, polling, CaptureThread.motions]
        · simp [CaptureInput.batchOf, fetching, CaptureThread.motions]
      · simp [CaptureInput.batchOf, mine]
  | received => simp [CaptureInput.batchOf, CaptureOutput.motionsFrom]
  | receivedMotion => simp [CaptureInput.batchOf, CaptureOutput.motionsFrom]
  | receivedNone => simp [CaptureInput.batchOf]
  | failed reading =>
      obtain rfl | rfl := reading <;> simp [CaptureInput.batchOf, CaptureOutput.motionsFrom]
  | stopped => simp [CaptureInput.batchOf]

/-- What a step does to the motion that the host has still to see: nothing, or the host sees it, or
a thread publishes another motion in its place. -/
theorem Steps.coalesces (steps : capture.Steps input outputs next) :
    Machine.Coalesces capture.unseen (outputs.flatMap CaptureOutput.published)
      (outputs.flatMap CaptureOutput.seen) next.unseen (capture.Caught input) := by
  have quiet (seen : outputs.flatMap CaptureOutput.seen = [])
      (published : outputs.flatMap CaptureOutput.published = [])
      (same : next.unseen = capture.unseen) (caught : capture.Caught input) :
      Machine.Coalesces capture.unseen (outputs.flatMap CaptureOutput.published)
        (outputs.flatMap CaptureOutput.seen) next.unseen (capture.Caught input) := by
    rw [seen, published, same]
    exact .of_eq (List.append_nil _).symm caught
  cases steps with
  | polled => exact quiet rfl rfl rfl trivial
  | fetched => exact quiet rfl rfl rfl trivial
  | advanced => exact quiet rfl rfl rfl trivial
  | @called mover event batch after calling callsBack =>
      have unmoved {captured : ReliableCapture} (decoded : event.reliable = some captured) :
          capture.Caught (.call mover) := by
        intro device sequence timestampMicros dx dy rest moving
        obtain ⟨rfl, _⟩ := CaptureThread.calling.inj (calling.symm.trans moving)
        cases decoded
      cases callsBack with
      | ignored native =>
          subst native
          refine quiet rfl rfl rfl fun device sequence timestampMicros dx dy rest moving => ?_
          cases calling.symm.trans moving
      | dropped decoded =>
          cases event with
          | input => exact quiet rfl rfl rfl (unmoved decoded)
          | motion => cases decoded
      | sent decoded =>
          cases event with
          | input => exact quiet rfl rfl rfl (unmoved decoded)
          | motion => cases decoded
      | @moved number sequence timestampMicros dx dy =>
          have published : ([.called (.motion number sequence timestampMicros dx dy)] :
              List CaptureOutput).flatMap CaptureOutput.published =
                [(number, { sequence, timestampMicros, dx, dy })] := rfl
          rw [published]
          refine ⟨List.sublist_append_right _ _, ?_, ?_⟩
          · exact (List.getLast?_append_cons ..).symm
          constructor
          · intro whole device sequence timestampMicros dx dy rest _
            exact List.self_eq_append_left.mp whole
          · intro caught
            rw [caught _ _ _ _ _ _ calling]
            rfl
  | left => exact quiet rfl rfl rfl trivial
  | received => exact quiet rfl rfl rfl trivial
  | @receivedMotion number moved motion received =>
      obtain ⟨waiting, nothing⟩ := Watch.receive_eq_some received
      have before : capture.unseen = [(number, moved)] := by
        rw [unseen, waiting]
        rfl
      have after : ({ capture with motion } : Capture devices).unseen = [] := by
        simp only [unseen, nothing, List.reduceOption_nil]
      rw [before, after]
      exact .of_eq rfl trivial
  | receivedNone received =>
      obtain ⟨waiting, nothing⟩ := Watch.receive_eq_some received
      refine quiet rfl rfl ?_ trivial
      simp [unseen, waiting, nothing]
  | failed reading => obtain rfl | rfl := reading <;> exact quiet rfl rfl rfl trivial
  | stopped => exact quiet rfl rfl rfl trivial

variable {inputs : List (CaptureInput devices)} {final : Capture devices}

theorem motions_conveyed (ran : Machine.run step (start devices) inputs = .ok (outputs, final))
    (source : Fin devices) :
    outputs.flatMap (CaptureOutput.motionsFrom source) ++ (final.threads source).motions =
      inputs.flatMap fun input => (input.batchOf source).toList.flatMap Batch.motions := by
  have conveys {state next : Capture devices} {input : CaptureInput devices}
      {outputs : List CaptureOutput} (labelled : state.Labelled) (_ : True)
      (stepped : state.step input = .ok (outputs, next)) :
      next.Labelled ∧ outputs.flatMap (CaptureOutput.motionsFrom source) ++
          (next.threads source).motions = (state.threads source).motions ++
        (input.batchOf source).toList.flatMap Batch.motions :=
    ⟨labelled.kept (step_steps stepped), (step_steps stepped).conveysMotion labelled source⟩
  exact @Machine.run_conveys _ _ _ _ _ step Labelled (fun _ => True) _ _ _ conveys _ _ _ _
    start_labelled (fun _ _ => trivial) ran

theorem seen_coalesces (ran : Machine.run step capture inputs = .ok (outputs, final)) :
    Machine.Coalesces capture.unseen (outputs.flatMap CaptureOutput.published)
      (outputs.flatMap CaptureOutput.seen) final.unseen
      (Machine.Along step Caught capture inputs) :=
  Machine.run_coalesces (fun stepped => (step_steps stepped).coalesces) ran

/-- The motion that a device publishes is that of its batches, in order.  What the host sees of all
that is published keeps its order, ends with the latest, and is all of it exactly when no thread
publishes before the host has seen the motion published last.  Of each motion: it is seen if the
slot is empty again when the next one is published, and the next one takes its place otherwise. -/
theorem published_motion_seen_iff
    (ran : Machine.run step (start devices) inputs = .ok (outputs, final)) :
    (∀ source : Fin devices, outputs.flatMap (CaptureOutput.motionsFrom source) ++
        (final.threads source).motions =
          inputs.flatMap fun input => (input.batchOf source).toList.flatMap Batch.motions) ∧
      Machine.Coalesces [] (outputs.flatMap CaptureOutput.published)
        (outputs.flatMap CaptureOutput.seen) final.unseen
        (Machine.Along step Caught (start devices) inputs) ∧
      ∀ published, final.unseen = [published] → ∀ later more last superseding,
        Machine.run step final later = .ok (more, last) →
        more.flatMap CaptureOutput.published = [superseding] →
          more.flatMap CaptureOutput.seen ++ last.unseen = [published, superseding] ∧
              Machine.Along step Caught final later ∨
            more.flatMap CaptureOutput.seen ++ last.unseen = [superseding] ∧
              ¬ Machine.Along step Caught final later := by
  refine ⟨motions_conveyed ran, seen_coalesces ran, ?_⟩
  intro published waiting later more last superseding ranOn once
  have coalesces := seen_coalesces ranOn
  rw [waiting, once] at coalesces
  exact coalesces.pair

/-- The motion of the second device takes the place of that of the first. -/
theorem published_motion_seen_iff_overwritten :
    ∃ outputs final, Machine.run step (start 2) sampleInputs = .ok (outputs, final) ∧
      ¬ Machine.Along step Caught (start 2) sampleInputs := by
  obtain ⟨outputs, final, ran, _, published, seen, unseen⟩ := sampleInputs_run
  refine ⟨outputs, final, ran, fun caught => ?_⟩
  have whole := (published_motion_seen_iff ran).2.1.whole_iff.mpr caught
  rw [published, seen, unseen] at whole
  cases whole

end Capture
end Rflow
