import Rflow.Foundation.Framing
import Rflow.Runtime.Client

/-!
# The select loop of the client

In every round the client races one read of the reliable stream against pointer datagrams and polls
of its screens.  A read that loses the race is dropped together with the bytes it has taken.
-/

namespace Rflow

open Foundation Framing

/-- The client in its loop: the read of this round, the bytes that have arrived and those that have
not, and the events handled so far. -/
structure ClientLoop where
  client : ClientState
  reading : Reading
  buffered : List UInt8
  network : List UInt8
  handled : List ReliableEvent
  deriving DecidableEq

inductive ClientInput where
  /-- The next bytes of the stream arrive. -/
  | arrive (count : Nat)
  /-- The read of the stream is polled. -/
  | readReliable
  /-- A pointer datagram wins the race. -/
  | datagram (dto : MotionDto)
  /-- A poll of the screens wins the race. -/
  | pollInventory (detected : Option (List DetectedScreen))

/-- The error of a failed read. -/
def readFailure : ReadError → RuntimeError
  | .tooLong length => .other ("reliable frame length " ++ toString length ++ " exceeds limit")
  | .undecodable => .other "decode protocol message"

namespace ClientLoop

variable (codec : Codec ReliableEvent) (serverPeer : PeerSummary)

def step (loop : ClientLoop) : ClientInput → Outcome RuntimeError (List ClientOutput × ClientLoop)
  | .arrive count =>
      .ok ([],
        { loop with
          buffered := loop.buffered ++ loop.network.take count
          network := loop.network.drop count })
  | .readReliable => do
      let (event, reading, buffered) ←
        (poll codec maxReliableFrame loop.reading loop.buffered).mapErr readFailure
      match event with
      | none => pure ([], { loop with reading, buffered })
      | some event =>
          let (outputs, client) ← loop.client.handleReliable serverPeer event
          pure (outputs,
            { loop with client, reading, buffered, handled := loop.handled ++ [event] })
  | .datagram dto => do
      let (outputs, client) ← loop.client.handleDatagram dto
      pure (outputs, { loop with client, reading := .fresh })
  | .pollInventory detected =>
      let (outputs, client) := loop.client.pollInventory detected
      .ok (outputs, { loop with client, reading := .fresh })

/-- A connection over which some events have been written and nothing has arrived. -/
def start (client : ClientState) (written : List ReliableEvent) : ClientLoop where
  client := client
  reading := .fresh
  buffered := []
  network := codec.frames written
  handled := []

/-- The handled events, and after them those whose frames are still on the way, are the written
ones. -/
def Intact (written : List ReliableEvent) (loop : ClientLoop) : Prop :=
  ∃ rest, written = loop.handled ++ rest ∧
    loop.reading.taken ++ loop.buffered ++ loop.network = codec.frames rest

/-- The read of this round waits for more bytes. -/
def Ready (loop : ClientLoop) : Prop := loop.reading.Waiting

/-- No read loses the race after it has taken bytes. -/
def Undisturbed (loop : ClientLoop) : ClientInput → Prop
  | .datagram _ | .pollInventory _ => loop.reading.taken = []
  | _ => True

variable {codec serverPeer} {loop next : ClientLoop} {written : List ReliableEvent}
  {outputs : List ClientOutput}

/-- Polling the read of an intact stream waits for more bytes or hands over the next event. -/
theorem Intact.poll (intact : loop.Intact codec written) (ready : loop.Ready)
    (carries : ∀ event ∈ written, codec.Carries maxReliableFrame event) :
    ∃ event later left,
      Framing.poll codec maxReliableFrame loop.reading loop.buffered = .ok (event, later, left) ∧
        later.Waiting ∧
        Intact codec written
          { loop with
            reading := later, buffered := left, handled := loop.handled ++ event.toList } := by
  obtain ⟨rest, split, onTheWay⟩ := intact
  cases rest with
  | nil =>
      obtain ⟨taken, buffered, network⟩ :
          loop.reading.taken = [] ∧ loop.buffered = [] ∧ loop.network = [] := by
        simpa [Codec.frames] using onTheWay
      refine ⟨none, .fresh, [], ?_, Reading.fresh_waiting, [], by simpa using split,
        by simp [network, Codec.frames]⟩
      rw [Reading.eq_fresh taken, buffered, poll_nothing]
  | cons event rest =>
      have fits := carries event (by simp [split])
      have aligned : loop.reading.taken ++ loop.buffered ++ loop.network =
          codec.frame event ++ codec.frames rest := by
        rw [onTheWay]
        rfl
      rcases poll_frame fits (by decide) ready aligned with
        ⟨later, laterWaiting, taken, polled⟩ | ⟨left, arrived, polled⟩
      · exact ⟨none, later, [], polled, laterWaiting, event :: rest, by simpa using split,
          by simpa [taken] using onTheWay⟩
      · refine ⟨some event, .fresh, left, polled, Reading.fresh_waiting, rest, by simp [split], ?_⟩
        rw [arrived, List.append_assoc] at aligned
        simpa using List.append_cancel_left aligned

/-- Once everything has arrived on an intact stream, polling hands over the next written event. -/
theorem Intact.poll_arrived (intact : loop.Intact codec written) (ready : loop.Ready)
    (carries : ∀ event ∈ written, codec.Carries maxReliableFrame event)
    (arrived : loop.network = []) {event : ReliableEvent} {rest : List ReliableEvent}
    (split : written = loop.handled ++ event :: rest) :
    Framing.poll codec maxReliableFrame loop.reading loop.buffered =
      .ok (some event, .fresh, codec.frames rest) := by
  obtain ⟨others, again, onTheWay⟩ := intact
  obtain rfl : event :: rest = others := List.append_cancel_left (split.symm.trans again)
  refine Framing.poll_arrived (carries event (by simp [split])) (by decide) ready ?_
  simpa [arrived, Codec.frames] using onTheWay

/-- The bytes that a dropped read has taken are the ones that go missing. -/
theorem intact_drop_iff (intact : loop.Intact codec written) (client : ClientState) :
    Intact codec written { loop with client, reading := .fresh } ↔ loop.reading.taken = [] := by
  obtain ⟨rest, split, onTheWay⟩ := intact
  constructor
  · rintro ⟨others, again, remaining⟩
    obtain rfl : rest = others := List.append_cancel_left (split.symm.trans again)
    have same : loop.reading.taken ++ (loop.buffered ++ loop.network) =
        [] ++ (loop.buffered ++ loop.network) := by
      rw [← List.append_assoc, onTheWay, ← remaining]
      rfl
    exact List.append_cancel_right same
  · intro nothing
    exact ⟨rest, split, by simpa [nothing] using onTheWay⟩

/-- A step keeps the stream intact exactly when it does not drop a read that has taken bytes. -/
theorem Intact.step (intact : loop.Intact codec written) (ready : loop.Ready)
    (carries : ∀ event ∈ written, codec.Carries maxReliableFrame event) {input : ClientInput}
    (stepped : loop.step codec serverPeer input = .ok (outputs, next)) :
    next.Ready ∧ (next.Intact codec written ↔ loop.Undisturbed input) := by
  cases input with
  | arrive count =>
      obtain ⟨_, rfl⟩ := Prod.mk.inj (Outcome.ok.inj stepped)
      obtain ⟨rest, split, onTheWay⟩ := intact
      refine ⟨ready, iff_of_true ⟨rest, split, ?_⟩ trivial⟩
      simpa using onTheWay
  | readReliable =>
      obtain ⟨event, later, left, polled, laterWaiting, laterIntact⟩ := intact.poll ready carries
      simp only [ClientLoop.step, polled, Outcome.mapErr, Outcome.ok_bind] at stepped
      cases event with
      | none =>
          obtain ⟨_, rfl⟩ := Prod.mk.inj (Outcome.ok.inj stepped)
          exact ⟨laterWaiting, iff_of_true (by simpa using laterIntact) trivial⟩
      | some event =>
          simp only [Outcome.bind_eq_ok, Outcome.pure_eq, Outcome.ok.injEq,
            Prod.mk.injEq] at stepped
          obtain ⟨⟨shown, client⟩, _, _, rfl⟩ := stepped
          exact ⟨laterWaiting, iff_of_true laterIntact trivial⟩
  | datagram dto =>
      simp only [ClientLoop.step, Outcome.bind_eq_ok, Outcome.pure_eq, Outcome.ok.injEq,
        Prod.mk.injEq] at stepped
      obtain ⟨⟨shown, client⟩, _, _, rfl⟩ := stepped
      exact ⟨Reading.fresh_waiting, intact_drop_iff intact client⟩
  | pollInventory detected =>
      obtain ⟨_, rfl⟩ := Prod.mk.inj (Outcome.ok.inj stepped)
      exact ⟨Reading.fresh_waiting, intact_drop_iff intact _⟩

/-- The client handles the written events each once and in order, with the rest still on the way, in
every state of a run exactly when no datagram and no poll of the screens ever interrupts a read that
has taken bytes. -/
theorem intact_throughout_iff {codec : Codec ReliableEvent} {serverPeer : PeerSummary}
    {client : ClientState} {written : List ReliableEvent} {inputs : List ClientInput}
    {outputs : List ClientOutput} {final : ClientLoop}
    (carries : ∀ event ∈ written, codec.Carries maxReliableFrame event)
    (ran : Machine.run (step codec serverPeer) (start codec client written) inputs =
      .ok (outputs, final)) :
    Machine.Throughout (step codec serverPeer) (Intact codec written) (start codec client written)
        inputs ↔
      Machine.Along (step codec serverPeer) Undisturbed (start codec client written) inputs := by
  have ready : (start codec client written).Ready := Reading.fresh_waiting
  have intact : (start codec client written).Intact codec written := ⟨written, rfl, rfl⟩
  have admissible : ∀ input ∈ inputs, True := fun _ _ => trivial
  refine Machine.throughout_iff_along ?_ ready intact admissible ran
  intro loop input outputs next ready intact _ stepped
  exact intact.step ready carries stepped

end ClientLoop

/-- The encoding of heartbeats with small sequence numbers and of release events. -/
def sampleCodec : Codec ReliableEvent where
  encode
    | .heartbeat sequence => [5, UInt8.ofNat sequence]
    | .releaseAll => [6]
    | _ => []
  decode
    | [5, sequence] => some (.heartbeat sequence.toNat)
    | [6] => some .releaseAll
    | _ => none

/-- A client that has just connected. -/
def sampleClient : ClientState where
  session := DesktopSession.client
  files := { inventory := .absent, layout := .absent }
  knownScreens := []

namespace ClientLoop

/-- A datagram that wins the race between two frames leaves both of them intact. -/
theorem intact_throughout_between_frames :
    Machine.Throughout (step sampleCodec (samplePeer 0).summary)
        (Intact sampleCodec [.heartbeat 1, .releaseAll])
        (start sampleCodec sampleClient [.heartbeat 1, .releaseAll])
        [.arrive 6, .readReliable, .datagram ⟨1, 0, 1, 0⟩, .arrive 5, .readReliable] ↔
      Machine.Along (step sampleCodec (samplePeer 0).summary) Undisturbed
        (start sampleCodec sampleClient [.heartbeat 1, .releaseAll])
        [.arrive 6, .readReliable, .datagram ⟨1, 0, 1, 0⟩, .arrive 5, .readReliable] := by
  have carries : ∀ event ∈ [ReliableEvent.heartbeat 1, .releaseAll],
      sampleCodec.Carries maxReliableFrame event := by
    simp only [List.forall_mem_cons, List.not_mem_nil, false_implies, implies_true, and_true]
    exact ⟨⟨rfl, by decide⟩, ⟨rfl, by decide⟩⟩
  obtain ⟨outputs, final, ran⟩ : ∃ outputs final,
      Machine.run (step sampleCodec (samplePeer 0).summary)
        (start sampleCodec sampleClient [.heartbeat 1, .releaseAll])
        [.arrive 6, .readReliable, .datagram ⟨1, 0, 1, 0⟩, .arrive 5, .readReliable] =
          .ok (outputs, final) := ⟨_, _, rfl⟩
  exact intact_throughout_iff carries ran

/-- A datagram that wins the race after the header of a release frame has been read loses the
release: all of its bytes arrive, and no further poll ever hands it over. -/
theorem interrupted_read_loses_release :
    ∃ outputs final,
      Machine.run (step sampleCodec (samplePeer 0).summary)
          (start sampleCodec sampleClient [.releaseAll])
          [.arrive 4, .readReliable, .datagram ⟨1, 0, 1, 0⟩, .arrive 1, .readReliable] =
            .ok (outputs, final) ∧
        final.network = [] ∧ final.buffered = [] ∧ final.handled = [] ∧
        final.step sampleCodec (samplePeer 0).summary .readReliable = .ok ([], final) ∧
        ¬ final.Intact sampleCodec [.releaseAll] := by
  refine ⟨_, _, rfl, rfl, rfl, rfl, rfl, ?_⟩
  rintro ⟨rest, split, onTheWay⟩
  obtain rfl : [ReliableEvent.releaseAll] = rest := split
  exact absurd onTheWay (by decide)

end ClientLoop
end Rflow
