import Rflow.Foundation.Records
import Rflow.Input.CaptureNumbers
import Rflow.Runtime.ClientLoop
import Rflow.Runtime.Datagrams

/-!
# Pointer motion on its way to a client

Pointer motion goes to a client in datagrams, which the network may lose, repeat and reorder.  They
bear the numbers of the captured motion, and the client drops what does not come after the motion
that it has injected last.
-/

namespace Rflow

open Foundation Framing

/-! ## The client -/

/-- The pointer motion that a client injects. -/
def ClientOutput.injected : ClientOutput → Option (Int × Int)
  | emitMotion dx dy => some (dx, dy)
  | _ => none

/-- The number of a motion that a client drops. -/
def ClientOutput.dropped : ClientOutput → Option Nat
  | motionDropped sequence => some sequence
  | _ => none

/-- The datagram that arrives. -/
def ClientInput.arriving : ClientInput → Option MotionDto
  | datagram dto => some dto
  | _ => none

/-- The motion that the session of a client asks for. -/
def SessionEffect.localMotion : SessionEffect → Option (Int × Int)
  | injectLocalMotion dx dy => some (dx, dy)
  | _ => none

theorem executeClientEffects_motion {effects : List SessionEffect} {outputs : List ClientOutput}
    (executed : executeClientEffects effects = .ok outputs) :
    outputs.filterMap ClientOutput.injected = effects.filterMap SessionEffect.localMotion ∧
      outputs.filterMap ClientOutput.dropped = [] := by
  induction effects generalizing outputs with
  | nil =>
      obtain rfl := Outcome.ok.inj executed
      exact ⟨rfl, rfl⟩
  | cons effect effects induction =>
      have carried : ∃ output rest, executeClientEffects effects = .ok rest ∧
          outputs = output :: rest ∧ output.injected = effect.localMotion ∧
          output.dropped = none := by
        cases effect with
        | injectLocal event =>
            simp only [executeClientEffects, Outcome.ok_bind, Outcome.bind_eq_ok, Outcome.pure_eq,
              Outcome.ok.injEq] at executed
            obtain ⟨rest, executedRest, rfl⟩ := executed
            exact ⟨_, rest, executedRest, rfl, rfl, rfl⟩
        | injectLocalMotion dx dy =>
            simp only [executeClientEffects, Outcome.ok_bind, Outcome.bind_eq_ok, Outcome.pure_eq,
              Outcome.ok.injEq] at executed
            obtain ⟨rest, executedRest, rfl⟩ := executed
            exact ⟨_, rest, executedRest, rfl, rfl, rfl⟩
        | setLocalCursor x y =>
            simp only [executeClientEffects, Outcome.ok_bind, Outcome.bind_eq_ok, Outcome.pure_eq,
              Outcome.ok.injEq] at executed
            obtain ⟨rest, executedRest, rfl⟩ := executed
            exact ⟨_, rest, executedRest, rfl, rfl, rfl⟩
        | _ => cases executed
      obtain ⟨output, rest, executedRest, rfl, injected, dropped⟩ := carried
      obtain ⟨injectedRest, droppedRest⟩ := induction executedRest
      constructor
      · rw [List.filterMap_cons, List.filterMap_cons, injected, injectedRest]
      · rw [List.filterMap_cons_none dropped, droppedRest]

namespace ClientState

variable {state next : ClientState} {serverPeer : PeerSummary} {outputs : List ClientOutput}

/-- Nothing but a datagram moves the pointer. -/
theorem handleReliable_motionless {frame : ReliableEvent}
    (handled : state.handleReliable serverPeer frame = .ok (outputs, next)) :
    outputs.filterMap ClientOutput.injected = [] ∧ outputs.filterMap ClientOutput.dropped = [] ∧
      next.session.lastRemoteMotion = state.session.lastRemoteMotion := by
  have fed {event : SessionEvent} {outputs : List ClientOutput}
      (accepted : state.handleEvent event = .ok (outputs, next)) :
      ∃ effects, state.session.handle event = .ok (effects, next.session) ∧
        outputs.filterMap ClientOutput.injected = effects.filterMap SessionEffect.localMotion ∧
        outputs.filterMap ClientOutput.dropped = [] := by
    simp only [handleEvent, Outcome.bind_eq_ok, Outcome.mapErr_eq_ok, Outcome.pure_eq,
      Outcome.ok.injEq, Prod.mk.injEq] at accepted
    obtain ⟨⟨effects, session⟩, handledEvent, _, executed, rfl, rfl⟩ := accepted
    exact ⟨effects, handledEvent, executeClientEffects_motion executed⟩
  cases frame with
  | input sequence eventType code value =>
      simp only [handleReliable, Outcome.bind_eq_ok, Outcome.mapErr_eq_ok] at handled
      obtain ⟨event, decoded, accepted⟩ := handled
      obtain ⟨effects, same, injected, dropped⟩ := fed accepted
      obtain ⟨rfl, session⟩ := Prod.mk.inj (Outcome.ok.inj same)
      exact ⟨injected, dropped, by rw [← session]⟩
  | enterScreen x y =>
      obtain ⟨effects, same, injected, dropped⟩ := fed handled
      obtain ⟨rfl, session⟩ := Prod.mk.inj (Outcome.ok.inj same)
      exact ⟨injected, dropped, by rw [← session]⟩
  | releaseAll =>
      obtain ⟨effects, same, injected, dropped⟩ := fed handled
      have released : state.session.releaseInjected = (effects, next.session) := Outcome.ok.inj same
      have motionless (held : OrderedSet HeldInput) :
          (DesktopSession.injectAll held .released).filterMap SessionEffect.localMotion = [] := by
        simp [DesktopSession.injectAll, SessionEffect.localMotion]
      unfold DesktopSession.releaseInjected at released
      split at released
      · obtain ⟨rfl, session⟩ := Prod.mk.inj released
        refine ⟨injected.trans ?_, dropped, by rw [← session]⟩
        rw [List.filterMap_append, motionless]
        split <;> rfl
      · obtain ⟨rfl, session⟩ := Prod.mk.inj released
        exact ⟨injected.trans (motionless _), dropped, by rw [← session]⟩
  | heartbeat sequence =>
      obtain ⟨rfl, rfl⟩ := Prod.mk.inj (Outcome.ok.inj handled)
      exact ⟨rfl, rfl, rfl⟩
  | screenInventory screens =>
      simp only [handleReliable, handleScreenInventory, Outcome.bind_eq_ok, Outcome.mapErr_eq_ok,
        Outcome.pure_eq, Outcome.ok.injEq, Prod.mk.injEq] at handled
      obtain ⟨_, _, _, _, _, _, _, _, rfl, rfl⟩ := handled
      exact ⟨rfl, rfl, rfl⟩
  | hello version screens => cases handled
  | clientHello version screens => cases handled

/-- A datagram moves the pointer if its number is beyond that of the last motion; otherwise its
number is all that is noted. -/
theorem handleDatagram_motion {dto : MotionDto}
    (handled : state.handleDatagram dto = .ok (outputs, next)) :
    if state.session.lastRemoteMotion.any fun last => dto.sequence ≤ last then
      outputs.filterMap ClientOutput.injected = [] ∧
        outputs.filterMap ClientOutput.dropped = [dto.sequence] ∧
        next.session.lastRemoteMotion = state.session.lastRemoteMotion
    else
      outputs.filterMap ClientOutput.injected = [(dto.dx, dto.dy)] ∧
        outputs.filterMap ClientOutput.dropped = [] ∧
        next.session.lastRemoteMotion = some dto.sequence := by
  simp only [handleDatagram, Outcome.bind_eq_ok, Outcome.mapErr_eq_ok, Outcome.pure_eq,
    Outcome.ok.injEq, Prod.mk.injEq] at handled
  obtain ⟨⟨effects, session⟩, moved, carried, executed, rfl, rfl⟩ := handled
  obtain ⟨injected, dropped⟩ := executeClientEffects_motion executed
  simp only [DesktopSession.handle] at moved
  rw [List.filterMap_append, List.filterMap_append, injected, dropped]
  change if state.session.lastRemoteMotion.any fun last => dto.toMotion.sequence ≤ last then _
    else _
  by_cases late :
      (state.session.lastRemoteMotion.any fun last => dto.toMotion.sequence ≤ last) = true
  · rw [if_pos late] at moved ⊢
    obtain ⟨rfl, rfl⟩ := Prod.mk.inj (Outcome.ok.inj moved)
    exact ⟨rfl, rfl, rfl⟩
  · rw [if_neg late] at moved ⊢
    obtain ⟨rfl, rfl⟩ := Prod.mk.inj (Outcome.ok.inj moved)
    exact ⟨rfl, rfl, rfl⟩

theorem pollInventory_motionless {detected : Option (List DetectedScreen)} :
    (state.pollInventory detected).1.filterMap ClientOutput.injected = [] ∧
      (state.pollInventory detected).1.filterMap ClientOutput.dropped = [] ∧
      (state.pollInventory detected).2.session.lastRemoteMotion =
        state.session.lastRemoteMotion := by
  unfold pollInventory
  cases detected with
  | none => exact ⟨rfl, rfl, rfl⟩
  | some screens => simp only; split <;> exact ⟨rfl, rfl, rfl⟩

end ClientState

namespace ClientLoop

variable {codec : Codec ReliableEvent} {serverPeer : PeerSummary} {loop next final : ClientLoop}
  {inputs : List ClientInput} {outputs : List ClientOutput}

theorem step_motionless {input : ClientInput} (other : input.arriving = none)
    (stepped : loop.step codec serverPeer input = .ok (outputs, next)) :
    outputs.filterMap ClientOutput.injected = [] ∧ outputs.filterMap ClientOutput.dropped = [] ∧
      next.client.session.lastRemoteMotion = loop.client.session.lastRemoteMotion := by
  cases input with
  | arrive count =>
      obtain ⟨rfl, rfl⟩ := Prod.mk.inj (Outcome.ok.inj stepped)
      exact ⟨rfl, rfl, rfl⟩
  | readReliable =>
      simp only [step, Outcome.bind_eq_ok, Outcome.mapErr_eq_ok] at stepped
      obtain ⟨⟨event, reading, buffered⟩, _, stepped⟩ := stepped
      cases event with
      | none =>
          obtain ⟨rfl, rfl⟩ := Prod.mk.inj (Outcome.ok.inj stepped)
          exact ⟨rfl, rfl, rfl⟩
      | some event =>
          simp only [Outcome.bind_eq_ok, Outcome.pure_eq, Outcome.ok.injEq,
            Prod.mk.injEq] at stepped
          obtain ⟨⟨shown, client⟩, handled, rfl, rfl⟩ := stepped
          exact ClientState.handleReliable_motionless handled
  | datagram dto => cases other
  | pollInventory detected =>
      obtain ⟨rfl, rfl⟩ := Prod.mk.inj (Outcome.ok.inj stepped)
      exact ClientState.pollInventory_motionless

/-- The client injects the records among the datagrams and drops all others. -/
theorem motion_filtered (ran : Machine.run (step codec serverPeer) loop inputs =
      .ok (outputs, final)) :
    outputs.filterMap ClientOutput.injected =
        (records MotionDto.sequence loop.client.session.lastRemoteMotion
          (inputs.filterMap ClientInput.arriving)).map (fun dto => (dto.dx, dto.dy)) ∧
      outputs.filterMap ClientOutput.dropped =
        (stale MotionDto.sequence loop.client.session.lastRemoteMotion
          (inputs.filterMap ClientInput.arriving)).map MotionDto.sequence := by
  induction inputs generalizing loop outputs with
  | nil =>
      obtain ⟨rfl, rfl⟩ : [] = outputs ∧ loop = final := by simpa using ran
      exact ⟨rfl, rfl⟩
  | cons input inputs induction =>
      obtain ⟨first, middle, rest, stepped, remaining, rfl⟩ := Machine.run_cons_eq_ok.mp ran
      obtain ⟨injectedRest, droppedRest⟩ := induction remaining
      rw [List.filterMap_append, List.filterMap_append, injectedRest, droppedRest]
      cases arriving : input.arriving with
      | none =>
          obtain ⟨injected, dropped, last⟩ := step_motionless arriving stepped
          rw [injected, dropped, last, List.filterMap_cons_none arriving]
          exact ⟨rfl, rfl⟩
      | some dto =>
          obtain rfl : input = .datagram dto := by
            cases input <;> cases arriving
            rfl
          simp only [step, Outcome.bind_eq_ok, Outcome.pure_eq, Outcome.ok.injEq,
            Prod.mk.injEq] at stepped
          obtain ⟨⟨shown, client⟩, handled, rfl, rfl⟩ := stepped
          have motion := ClientState.handleDatagram_motion handled
          rw [List.filterMap_cons_some arriving, records, stale]
          split_ifs at motion ⊢ with late <;>
            · obtain ⟨injected, dropped, last⟩ := motion
              simp only [injected, dropped, last, List.map_cons, List.nil_append,
                List.singleton_append, and_self]

/-- Whatever the network does to the datagrams, the client injects each of them once or drops it.
What it injects bears increasing numbers, and it drops none exactly when the numbers of all that
arrive increase. -/
theorem motion_injected_once (ran : Machine.run (step codec serverPeer) loop inputs =
      .ok (outputs, final)) :
    ∃ injected dropped : List MotionDto,
      outputs.filterMap ClientOutput.injected = injected.map (fun dto => (dto.dx, dto.dy)) ∧
      outputs.filterMap ClientOutput.dropped = dropped.map MotionDto.sequence ∧
      (injected ++ dropped).Perm (inputs.filterMap ClientInput.arriving) ∧
      injected.Sublist (inputs.filterMap ClientInput.arriving) ∧
      injected.Pairwise (fun first second => first.sequence < second.sequence) ∧
      (dropped = [] ↔ (loop.client.session.lastRemoteMotion.toList ++
        (inputs.filterMap ClientInput.arriving).map MotionDto.sequence).Pairwise (· < ·)) := by
  obtain ⟨injected, dropped⟩ := motion_filtered ran
  refine ⟨_, _, injected, dropped, records_append_stale_perm, records_sublist, records_increase, ?_⟩
  rw [stale_eq_nil_iff, List.pairwise_append, List.pairwise_map]
  constructor
  · intro whole
    refine ⟨by cases loop.client.session.lastRemoteMotion <;> simp, ?_, ?_⟩
    · rw [← whole]
      exact records_increase
    · intro before isLast number member
      obtain ⟨dto, isArriving, rfl⟩ := List.mem_map.mp member
      rw [← whole, Option.mem_toList.mp isLast] at isArriving
      exact lt_of_mem_records isArriving
  · rintro ⟨_, increase, later⟩
    exact records_eq_self increase fun before isLast dto member =>
      later before (Option.mem_toList.mpr isLast) dto.sequence (List.mem_map_of_mem member)

/-- The second datagram is late. -/
theorem motion_injected_once_reordered :
    ∃ (outputs : List ClientOutput) (final : ClientLoop) (injected dropped : List MotionDto),
      Machine.run (step sampleCodec (samplePeer 0).summary) (start sampleCodec sampleClient [])
          [.datagram ⟨2, 0, 1, 0⟩, .datagram ⟨1, 0, 5, 5⟩, .datagram ⟨3, 0, 0, 1⟩] =
        .ok (outputs, final) ∧
      (injected ++ dropped).Perm [⟨2, 0, 1, 0⟩, ⟨1, 0, 5, 5⟩, ⟨3, 0, 0, 1⟩] ∧ dropped ≠ [] := by
  have ran : Machine.run (step sampleCodec (samplePeer 0).summary)
      (start sampleCodec sampleClient [])
      [.datagram ⟨2, 0, 1, 0⟩, .datagram ⟨1, 0, 5, 5⟩, .datagram ⟨3, 0, 0, 1⟩] = .ok _ := rfl
  obtain ⟨injected, dropped, _, _, together, _, _, whole⟩ := motion_injected_once ran
  exact ⟨_, _, injected, dropped, rfl, together, fun none => absurd (whole.mp none) (by decide)⟩

end ClientLoop

/-! ## From the device to the client -/

namespace Capture

variable {devices : Nat} {capture : Capture devices} {inputs : List (CaptureInput devices)}
  {outputs : List CaptureOutput} {pointer : Fin devices}

/-- No other device moves the pointer. -/
def OnlyMoves (pointer : Fin devices) (inputs : List (CaptureInput devices)) : Prop :=
  ∀ input ∈ inputs, ∀ source ≠ pointer, ∀ batch ∈ input.batchOf source, batch.motions = []

theorem called_source (ran : Machine.run step (start devices) inputs = .ok (outputs, capture)) :
    ∀ event, .called event ∈ outputs → ∃ source : Fin devices, event.source = (source : Nat) := by
  have kept {state next : Capture devices} {input : CaptureInput devices}
      {outputs : List CaptureOutput} (labelled : state.Labelled)
      (_ : True) (stepped : state.step input = .ok (outputs, next)) :
      next.Labelled ∧ ∀ output ∈ outputs, ∀ event, output = .called event →
        ∃ source : Fin devices, event.source = (source : Nat) := by
    have steps := step_steps stepped
    refine ⟨labelled.kept steps, ?_⟩
    cases steps with
    | @called mover event batch after calling =>
        intro output member other same
        rw [List.mem_singleton.mp member, CaptureOutput.called.injEq] at same
        exact ⟨mover, same ▸ labelled mover event batch calling⟩
    | _ => simp
  have labelled := Machine.run_outputs_along kept start_labelled
    (Machine.Along.of_forall fun _ _ => trivial) ran
  exact fun event member => labelled _ member event rfl

/-- What is published comes from the only device that moves the pointer. -/
theorem published_source (moves : OnlyMoves pointer inputs)
    (ran : Machine.run step (start devices) inputs = .ok (outputs, capture)) :
    ∀ moved ∈ outputs.flatMap CaptureOutput.published, moved.1 = pointer := by
  intro moved member
  obtain ⟨output, isOutput, published⟩ := List.mem_flatMap.mp member
  cases output with
  | called event =>
      cases event with
      | input => cases published
      | motion number sequence timestampMicros dx dy =>
          obtain rfl := List.mem_singleton.mp published
          obtain ⟨source, label⟩ := called_source ran _ isOutput
          have mine : number = source := label
          by_contra other
          have different : source ≠ pointer := fun same => other (mine.trans (congrArg _ same))
          -- Some batch of another device must have moved the pointer.
          have conveyed := motions_conveyed ran source
          have nothing : (inputs.flatMap fun input =>
              (input.batchOf source).toList.flatMap Batch.motions) = [] := by
            simp only [List.flatMap_eq_nil_iff, Option.mem_toList]
            exact fun input isInput batch => moves input isInput source different batch
          rw [nothing, List.append_eq_nil_iff, List.flatMap_eq_nil_iff] at conveyed
          have none := conveyed.1 _ isOutput
          simp [CaptureOutput.motionsFrom, mine] at none
  | captured | moved | failed => cases published

theorem published_numbers {outputs : List CaptureOutput}
    (source : ∀ moved ∈ outputs.flatMap CaptureOutput.published, moved.1 = pointer) :
    ((outputs.flatMap CaptureOutput.published).map fun moved => moved.2.sequence).Sublist
      (outputs.filterMap (CaptureOutput.numberFrom pointer)) := by
  induction outputs with
  | nil => exact List.Sublist.refl _
  | cons output outputs induction =>
      rw [List.flatMap_cons] at source ⊢
      have later := induction fun moved member => source moved (List.mem_append_right _ member)
      rw [List.map_append, List.filterMap_cons]
      cases output with
      | called event =>
          cases event with
          | input number =>
              by_cases mine : number = pointer
              · simpa [CaptureOutput.published, CaptureOutput.numberFrom,
                  NativeCapturedEvent.source, mine] using later.cons _
              · simpa [CaptureOutput.published, CaptureOutput.numberFrom,
                  NativeCapturedEvent.source, mine] using later
          | motion number sequence timestampMicros dx dy =>
              have mine : number = pointer :=
                source (number, { sequence, timestampMicros, dx, dy })
                  (by simp [CaptureOutput.published])
              simpa [CaptureOutput.published, CaptureOutput.numberFrom, NativeCapturedEvent.source,
                NativeCapturedEvent.sequence, mine] using later
      | captured | moved | failed => exact later

/-- The motion that the host sees bears increasing numbers when one device moves the pointer. -/
theorem seen_increases (moves : OnlyMoves pointer inputs)
    (counting : Machine.Along step (fun capture _ => capture.Counting) (start devices) inputs)
    (ran : Machine.run step (start devices) inputs = .ok (outputs, capture)) :
    ((outputs.flatMap CaptureOutput.seen).map fun moved => moved.2.sequence).Pairwise (· < ·) := by
  have seen : (outputs.flatMap CaptureOutput.seen).Sublist
      (outputs.flatMap CaptureOutput.published) :=
    (List.sublist_append_left _ _).trans (seen_coalesces ran).sublist
  exact ((numbered_of_run counting ran).increase pointer).sublist
    ((seen.map _).trans (published_numbers (published_source moves ran)))

end Capture

/-- One device moves the pointer, the host takes what it sees of that, whatever else happens around
it, and the network loses datagrams to a client without reordering the others.  Then the client
injects every motion that arrives. -/
theorem captured_motion_injected {devices : Nat} {pointer : Fin devices}
    {captureInputs : List (CaptureInput devices)} {captureOutputs : List CaptureOutput}
    {capture : Capture devices} (moves : Capture.OnlyMoves pointer captureInputs)
    (counting : Machine.Along Capture.step (fun capture _ => capture.Counting)
      (Capture.start devices) captureInputs)
    (captured : Machine.run Capture.step (Capture.start devices) captureInputs =
      .ok (captureOutputs, capture))
    {primitives : Primitives} {config : HostConfig} {world after : World}
    {worldInputs : List WorldInput} {worldOutputs : List HostOutput}
    (taken : (worldInputs.filterMap WorldInput.motion).Sublist
      (captureOutputs.flatMap CaptureOutput.seen))
    (served : Machine.run (World.step primitives config) world worldInputs =
      .ok (worldOutputs, after))
    {codec : Codec ReliableEvent} {serverPeer : PeerSummary} {loop final : ClientLoop}
    {clientInputs : List ClientInput} {clientOutputs : List ClientOutput}
    {device : TopologyDeviceId}
    (arrived : (clientInputs.filterMap ClientInput.arriving).Sublist
      (worldOutputs.filterMap (HostOutput.datagramTo device)))
    (fresh : loop.client.session.lastRemoteMotion = none)
    (ran : Machine.run (ClientLoop.step codec serverPeer) loop clientInputs =
      .ok (clientOutputs, final)) :
    clientOutputs.filterMap ClientOutput.injected =
        (clientInputs.filterMap ClientInput.arriving).map (fun dto => (dto.dx, dto.dy)) ∧
      clientOutputs.filterMap ClientOutput.dropped = [] := by
  have sent : ((worldOutputs.filterMap (HostOutput.datagramTo device)).map
      MotionDto.sequence).Sublist (worldOutputs.filterMap HostOutput.datagramNumber) := by
    generalize worldOutputs = outputs
    induction outputs with
    | nil => exact List.Sublist.refl _
    | cons output outputs induction =>
        cases output with
        | sendDatagram other motion =>
            by_cases same : other = device
            · simpa [HostOutput.datagramTo, HostOutput.datagramNumber, same] using induction
            · simpa [HostOutput.datagramTo, HostOutput.datagramNumber, same] using
                induction.cons motion.sequence
        | _ => exact induction
  have increase : ((clientInputs.filterMap ClientInput.arriving).map
      MotionDto.sequence).Pairwise (· < ·) :=
    (Capture.seen_increases moves counting captured).sublist <| (arrived.map _).trans <|
      sent.trans <| (World.datagrams_in_order served).trans (taken.map _)
  have whole : records MotionDto.sequence loop.client.session.lastRemoteMotion
      (clientInputs.filterMap ClientInput.arriving) = clientInputs.filterMap ClientInput.arriving :=
    records_eq_self (List.pairwise_map.mp increase) (by simp [fresh])
  obtain ⟨injected, dropped⟩ := ClientLoop.motion_filtered ran
  rw [whole] at injected
  rw [stale_eq_nil_iff.mpr whole] at dropped
  exact ⟨injected, dropped⟩

/-- A host whose cursor is on the screen of its only peer. -/
def sampleAwayHost : Host where
  session := .sampleAway
  peers := (∅ : Peers).insert ⟨"peer"⟩ (samplePeer 0)
  topology := sampleTopology true
  layout := sampleLayout true
  inventory := sampleState.inventory
  detectedScreens := sampleScreens
  direction := none
  capturing := true
  heldSources := ∅
  trust := sampleTrust
  limiter := { attempts := [] }

/-- Two motions of the only device. -/
def sampleMotions : List (CaptureInput 1) :=
  [.poll 0, .fetch 0 [⟨evRel, relX, 7⟩], .advance 0 1, .advance 0 2, .call 0, .advance 0 3,
    .receiveMotion, .poll 0, .fetch 0 [⟨evRel, relY, 4⟩], .advance 0 4, .advance 0 5, .call 0,
    .receiveMotion]

/-- The network loses the first of two motions. -/
theorem captured_motion_injected_after_loss :
    ∃ captureOutputs capture worldOutputs after clientOutputs final,
      Machine.run Capture.step (Capture.start 1) sampleMotions = .ok (captureOutputs, capture) ∧
      Machine.run (World.step samplePrimitives sampleConfig)
          (World.start sampleAwayHost sampleFiles (.database sampleTrust))
          [.turn (.capture (.ok (.motion 0 ⟨1, 2, 7, 0⟩))),
            .turn (.capture (.ok (.motion 0 ⟨2, 5, 0, 4⟩)))] = .ok (worldOutputs, after) ∧
      Machine.run (ClientLoop.step sampleCodec (samplePeer 0).summary)
          (ClientLoop.start sampleCodec sampleClient []) [.datagram ⟨2, 5, 0, 4⟩] =
        .ok (clientOutputs, final) ∧
      clientOutputs.filterMap ClientOutput.injected = [(0, 4)] ∧
      clientOutputs.filterMap ClientOutput.dropped = [] := by
  have captured : ((Machine.run Capture.step (Capture.start 1) sampleMotions).any fun result =>
      decide (result.1.flatMap CaptureOutput.seen = [(0, ⟨1, 2, 7, 0⟩), (0, ⟨2, 5, 0, 4⟩)])) =
        true := by decide
  have served : ((Machine.run (World.step samplePrimitives sampleConfig)
      (World.start sampleAwayHost sampleFiles (.database sampleTrust))
      [.turn (.capture (.ok (.motion 0 ⟨1, 2, 7, 0⟩))),
        .turn (.capture (.ok (.motion 0 ⟨2, 5, 0, 4⟩)))]).any fun result =>
      decide (result.1.filterMap (HostOutput.datagramTo ⟨"peer"⟩) =
        [⟨1, 2, 7, 0⟩, ⟨2, 5, 0, 4⟩])) = true := by decide +kernel
  obtain ⟨⟨captureOutputs, capture⟩, captured, seen⟩ := Outcome.any_eq_true.mp captured
  obtain ⟨⟨worldOutputs, after⟩, served, sent⟩ := Outcome.any_eq_true.mp served
  have moves : Capture.OnlyMoves (0 : Fin 1) sampleMotions := fun _ _ source other =>
    absurd (Subsingleton.elim source 0) other
  have taken : (([.turn (.capture (.ok (.motion 0 ⟨1, 2, 7, 0⟩))),
      .turn (.capture (.ok (.motion 0 ⟨2, 5, 0, 4⟩)))] : List WorldInput).filterMap
        WorldInput.motion).Sublist (captureOutputs.flatMap CaptureOutput.seen) := by
    rw [of_decide_eq_true seen]
    exact List.Sublist.refl _
  have arrived : (([.datagram ⟨2, 5, 0, 4⟩] : List ClientInput).filterMap
      ClientInput.arriving).Sublist (worldOutputs.filterMap (HostOutput.datagramTo ⟨"peer"⟩)) := by
    rw [of_decide_eq_true sent]
    exact (List.Sublist.refl _).cons _
  obtain ⟨clientOutputs, final, ran⟩ : ∃ clientOutputs final,
      Machine.run (ClientLoop.step sampleCodec (samplePeer 0).summary)
        (ClientLoop.start sampleCodec sampleClient []) [.datagram ⟨2, 5, 0, 4⟩] =
          .ok (clientOutputs, final) := ⟨_, _, rfl⟩
  obtain ⟨injected, dropped⟩ :=
    captured_motion_injected moves (by decide) captured taken served arrived rfl ran
  exact ⟨_, _, _, _, _, _, captured, served, ran, injected, dropped⟩

end Rflow
