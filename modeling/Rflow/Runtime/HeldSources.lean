import Rflow.Foundation.Ledger
import Rflow.Runtime.WorldSteps

/-!
# Presses and releases on the virtual devices

Captured input is injected again into the virtual device of the source that holds it, as the loop
has noted it.  The virtual devices hold what their sources hold as long as no source lets go of an
input that another source has pressed last.
-/

namespace Rflow

open Foundation

/-- What an event gives to a device or takes from it; scrolls and repeats do neither. -/
def InputEvent.entry (device : Nat) (event : InputEvent) : Option (Ledger.Entry Nat HeldInput) :=
  match event.held, event.state with
  | some item, some .pressed => some (.give device item)
  | some item, some .released => some (.take device item)
  | _, _ => none

/-- What the sources hold after some events. -/
def heldBySources (events : List (Nat × InputEvent)) : Ledger Nat HeldInput :=
  (events.filterMap fun captured => captured.2.entry captured.1).foldl Ledger.post fun _ => ∅

/-- What an output presses or releases on a virtual device. -/
def HostOutput.entry : HostOutput → Option (Ledger.Entry Nat HeldInput)
  | .emit device event => event.entry device
  | _ => none

/-- What has been pressed and not released on the virtual devices after some outputs. -/
def heldOnDevices (outputs : List HostOutput) : Ledger Nat HeldInput :=
  (outputs.filterMap HostOutput.entry).foldl Ledger.post fun _ => ∅

/-- Each source presses only what it does not hold and releases only what it holds. -/
def Alternates (held : Ledger Nat HeldInput) : List (Nat × InputEvent) → Prop
  | [] => True
  | (source, event) :: rest =>
      (∀ item ∈ event.held, (event.state = some .pressed → item ∉ held source) ∧
        (event.state = some .released → item ∈ held source)) ∧
      Alternates ((event.entry source).elim held held.post) rest

namespace Host

variable {closed : Finset Nat} {host next : Host} {source : Nat} {event : InputEvent}
  {outputs : List HostOutput}

/-- The capture branch on an event of a source. -/
def captureInput (closed : Finset Nat) : Machine.Step Host
    (Nat × InputEvent) HostOutput RuntimeError :=
  fun host captured =>
    let branch := host.captured closed (.ok (.input captured.1 captured.2))
    branch.outcome >>= fun next => .ok (branch.outputs, next)

/-- The devices are captured and the session controls this device. -/
structure ControlsHere (host : Host) : Prop where
  capturing : host.capturing = true
  control : host.session.control = .localControl

theorem captureInput_eq_ok :
    captureInput closed host (source, event) = .ok (outputs, next) ↔
      (host.captured closed (.ok (.input source event))).Returns outputs next := by
  simp only [captureInput, Outcome.bind_eq_ok, Outcome.ok.injEq, Prod.mk.injEq, Traced.Returns]
  constructor
  · rintro ⟨_, returned, rfl, rfl⟩
    exact ⟨rfl, returned⟩
  · rintro ⟨rfl, returned⟩
    exact ⟨_, returned, rfl, rfl⟩

theorem noteSource_heldSources (host : Host) (event : CapturedEvent) :
    (host.noteSource event).heldSources =
      (event.heldIn .pressed).elim host.heldSources fun item =>
        host.heldSources.insert item event.source := by
  unfold noteSource
  cases event.heldIn .pressed <;> rfl

theorem dropSource_heldSources (host : Host) (event : CapturedEvent) :
    (host.dropSource event).heldSources =
      (event.heldIn .released).elim host.heldSources host.heldSources.erase := by
  unfold dropSource
  cases event.heldIn .released <;> rfl

theorem handlePhysicalInput_here {session : DesktopSession}
    (control : session.control = .localControl) (event : InputEvent) :
    (session.handlePhysicalInput event).1 =
        (if session.orphanRepeat event then [] else [.injectLocal event]) ∧
      (session.handlePhysicalInput event).2.control = .localControl := by
  unfold DesktopSession.handlePhysicalInput
  split_ifs
  · exact ⟨rfl, control⟩
  · simp only [control, and_self]

/-- Input under local control is injected into the device that the notes name, or dropped as an
orphan. -/
theorem captureInput_returns (here : host.ControlsHere)
    (captured : captureInput closed host (source, event) = .ok (outputs, next)) :
    next.ControlsHere ∧
      next.heldSources =
        ((host.noteSource (.input source event)).dropSource (.input source event)).heldSources ∧
      outputs =
        if host.session.orphanRepeat event then []
        else [.emit (localEventSource event
          { current := some source
            held := (host.noteSource (.input source event)).heldSources }) event] := by
  have returned := captureInput_eq_ok.mp captured
  simp only [Host.captured, Traced.returns_bind, Traced.returns_lift, Outcome.mapErr_eq_ok,
    Traced.returns_pure] at returned
  obtain ⟨_, occurred, _, ⟨happened, rfl⟩, ⟨_, asked, _, ⟨handled, rfl⟩, ⟨_, middle, _, carried,
    ⟨rfl, rfl⟩, rfl⟩, rfl⟩, rfl⟩ := returned
  obtain rfl := Outcome.ok.inj happened
  obtain ⟨executed, sameMiddle⟩ := carryOut_returns carried
  have session : (host.noteSource (.input source event)).session = host.session := by
    rw [noteSource_eq]
  have capturing : (host.noteSource (.input source event)).capturing = true := by
    rw [noteSource_eq]
    exact here.capturing
  simp only [CapturedEvent.sessionEvent, DesktopSession.handle, session,
    Outcome.ok.injEq] at handled
  subst handled
  obtain ⟨effects, control⟩ := handlePhysicalInput_here here.control event
  refine ⟨⟨?_, ?_⟩, ?_, ?_⟩
  · rw [dropSource_eq, sameMiddle]
    exact capturing
  · rw [dropSource_eq, sameMiddle]
    exact control
  · rw [dropSource_heldSources, dropSource_heldSources, sameMiddle]
  · rw [capturing, effects] at executed
    split_ifs at executed ⊢
    · obtain ⟨rfl, _⟩ := Prod.mk.inj (Outcome.ok.inj executed)
      rfl
    · obtain ⟨first, _, rest, injected, ended, rfl⟩ := Machine.run_cons_eq_ok.mp executed
      obtain ⟨rfl, _⟩ := Prod.mk.inj (Outcome.ok.inj ended)
      obtain ⟨rfl, _⟩ := Prod.mk.inj (Outcome.ok.inj injected)
      rfl

/-- A source releases an input only when the notes name no other source for it: since the last press
of the input, by this or by another source, it has been released, or it is this source that pressed
it. -/
def ReleasesOwn (host : Host) (captured : Nat × InputEvent) : Prop :=
  captured.2.state = some .released →
    ∀ item ∈ captured.2.held, ∀ holder ∈ host.heldSources.lookup item, holder = captured.1

/-- The event goes to the device of the source that it came from. -/
theorem localEventSource_own (owns : host.ReleasesOwn (source, event))
    (moves : (event.entry source).isSome) :
    localEventSource event
      { current := some source, held := (host.noteSource (.input source event)).heldSources } =
        source := by
  rw [noteSource_heldSources]
  cases holds : event.held with
  | none => simp [InputEvent.entry, holds] at moves
  | some item =>
      cases state : event.state with
      | none => simp [InputEvent.entry, holds, state] at moves
      | some state' =>
          cases state' with
          | pressed =>
              simp [localEventSource, CapturedEvent.heldIn, holds, state, CapturedEvent.source]
          | released =>
              cases noted : host.heldSources.lookup item with
              | none => simp [localEventSource, CapturedEvent.heldIn, holds, state, noted]
              | some holder =>
                  obtain rfl : holder = source := owns state item holds holder noted
                  simp [localEventSource, CapturedEvent.heldIn, holds, state, noted]
          | repeated => simp [InputEvent.entry, holds, state] at moves

/-- What a step does to the virtual devices is what the source has done. -/
theorem captureInput_entries (here : host.ControlsHere) (owns : host.ReleasesOwn (source, event))
    (captured : captureInput closed host (source, event) = .ok (outputs, next)) :
    outputs.filterMap HostOutput.entry = (event.entry source).toList := by
  obtain ⟨_, _, rfl⟩ := captureInput_returns here captured
  cases moves : event.entry source with
  | none =>
      have still (device : Nat) : event.entry device = none := by
        unfold InputEvent.entry at moves ⊢
        split at moves <;> simp_all
      split_ifs <;> simp [HostOutput.entry, still]
  | some entry =>
      have direct : host.session.orphanRepeat event = false := by
        cases event with
        | key code state => cases state <;> simp_all [DesktopSession.orphanRepeat, InputEvent.entry,
            InputEvent.held, InputEvent.state]
        | button => rfl
        | scroll => rfl
      rw [direct, localEventSource_own owns (by rw [moves]; rfl)]
      simp [HostOutput.entry, moves]

/-- Under local control the capture branch takes every input. -/
theorem captureInput_isOk (here : host.ControlsHere) (captured : Nat × InputEvent) :
    (captureInput closed host captured).IsOk := by
  have session : (host.noteSource (.input captured.1 captured.2)).session = host.session := by
    rw [noteSource_eq]
  have capturing : (host.noteSource (.input captured.1 captured.2)).capturing = true := by
    rw [noteSource_eq]
    exact here.capturing
  obtain ⟨effects, _⟩ := handlePhysicalInput_here here.control captured.2
  obtain ⟨result, executed⟩ : (executeHostEffectsMulti closed
      (host.noteSource (.input captured.1 captured.2)).topology true
      { current := some captured.1
        held := (host.noteSource (.input captured.1 captured.2)).heldSources }
      (host.noteSource (.input captured.1 captured.2)).peers
      (host.session.handlePhysicalInput captured.2).1).IsOk := by
    rw [effects]
    split_ifs <;> exact ⟨_, rfl⟩
  simp only [captureInput, Host.captured, Outcome.mapErr, CapturedEvent.sessionEvent,
    DesktopSession.handle, session, carryOut, capturing, CapturedEvent.source, executed,
    Traced.bind_outcome, Traced.lift_outcome, Outcome.ok_bind, Traced.emit, Traced.pure_outcome]
  exact ⟨_, rfl⟩

/-- Along a run in which every source releases its own, the virtual devices do what the sources
do. -/
theorem run_entries {events : List (Nat × InputEvent)} (here : host.ControlsHere)
    (owns : Machine.Along (captureInput closed) ReleasesOwn host events)
    (ran : Machine.run (captureInput closed) host events = .ok (outputs, next)) :
    outputs.filterMap HostOutput.entry =
      events.filterMap fun captured => captured.2.entry captured.1 := by
  induction events generalizing host outputs with
  | nil =>
      obtain ⟨rfl, _⟩ : [] = outputs ∧ host = next := by simpa using ran
      rfl
  | cons captured events induction =>
      obtain ⟨source, event⟩ := captured
      obtain ⟨first, middle, rest, stepped, remaining, rfl⟩ := Machine.run_cons_eq_ok.mp ran
      have now := captureInput_entries here owns.1 stepped
      have later := induction (captureInput_returns here stepped).1 (owns.2 _ _ stepped) remaining
      rw [List.filterMap_append, now, later]
      cases moves : event.entry source <;> simp [moves]

/-- Under local control the loop takes every run of input.  If every source releases its own, no
virtual device has an input pressed that no source holds. -/
theorem no_stuck_input (here : host.ControlsHere) (events : List (Nat × InputEvent)) :
    ∃ outputs next, Machine.run (captureInput closed) host events = .ok (outputs, next) ∧
      (Machine.Along (captureInput closed) ReleasesOwn host events →
        ∀ item, (∀ source, item ∉ heldBySources events source) →
          ∀ device, item ∉ heldOnDevices outputs device) := by
  have takes {host : Host} {captured : Nat × InputEvent} (here : host.ControlsHere) (_ : True) :
      (captureInput closed host captured).IsOk := captureInput_isOk here captured
  have stays {host next : Host} {captured : Nat × InputEvent} {outputs : List HostOutput}
      (here : host.ControlsHere) (_ : True)
      (stepped : captureInput closed host captured = .ok (outputs, next)) : next.ControlsHere :=
    (captureInput_returns here stepped).1
  obtain ⟨⟨outputs, next⟩, ran⟩ : (Machine.run (captureInput closed) host events).IsOk :=
    Machine.run_isOk takes stays here fun _ _ => trivial
  refine ⟨outputs, next, ran, fun owns item free device => ?_⟩
  rw [heldOnDevices, run_entries here owns ran]
  exact free device

/-- The host with one trusted device, while it controls this device. -/
theorem sampleHost_controlsHere :
    ∃ host, sampleHost sampleTrust = .ok host ∧ { host with capturing := true }.ControlsHere :=
  ⟨_, rfl, rfl, rfl⟩

/-- One key pressed on two devices, and released in the same order. -/
def sampleOverlap : List (Nat × InputEvent) :=
  [(0, .key ⟨30⟩ .pressed), (1, .key ⟨30⟩ .pressed), (0, .key ⟨30⟩ .released),
    (1, .key ⟨30⟩ .released)]

/-- The virtual device of the first source never sees the key go up. -/
theorem overlapping_presses_stick :
    ∃ host outputs next, host.ControlsHere ∧ Alternates (fun _ => ∅) sampleOverlap ∧
      Machine.run (captureInput ∅) host sampleOverlap = .ok (outputs, next) ∧
      (∀ source, HeldInput.key ⟨30⟩ ∉ heldBySources sampleOverlap source) ∧
      HeldInput.key ⟨30⟩ ∈ heldOnDevices outputs 0 := by
  obtain ⟨host, built, here⟩ := sampleHost_controlsHere
  obtain rfl := Outcome.ok.inj built
  refine ⟨_, _, _, here, ?_, rfl, ?_, ?_⟩
  · simp [Alternates, sampleOverlap, InputEvent.held, InputEvent.state,
      InputEvent.entry, Ledger.post]
  · intro source
    simp only [heldBySources, sampleOverlap, InputEvent.held, InputEvent.state, InputEvent.entry,
      Ledger.post, List.filterMap, List.foldl, Function.update_apply]
    split_ifs <;> simp_all
  · decide

theorem no_stuck_input_nested :
    ∃ host outputs next, host.ControlsHere ∧
      Machine.run (captureInput ∅) host
        [(0, .key ⟨30⟩ .pressed), (1, .key ⟨30⟩ .pressed), (1, .key ⟨30⟩ .released),
          (0, .key ⟨30⟩ .released)] = .ok (outputs, next) ∧
      ∀ device, HeldInput.key ⟨30⟩ ∉ heldOnDevices outputs device := by
  obtain ⟨host, built, here⟩ := sampleHost_controlsHere
  obtain ⟨outputs, next, ran, free⟩ := @no_stuck_input ∅ _ here
    [(0, .key ⟨30⟩ .pressed), (1, .key ⟨30⟩ .pressed), (1, .key ⟨30⟩ .released),
      (0, .key ⟨30⟩ .released)]
  refine ⟨_, outputs, next, here, ran, free ?_ _ fun source => ?_⟩
  · obtain rfl := Outcome.ok.inj built
    refine (Machine.along_cons rfl).mpr ⟨by simp [ReleasesOwn, InputEvent.state], ?_⟩
    refine (Machine.along_cons rfl).mpr ⟨by simp [ReleasesOwn, InputEvent.state], ?_⟩
    refine (Machine.along_cons rfl).mpr ⟨?_, ?_⟩
    · rintro _ item ⟨⟩ holder ⟨⟩
      rfl
    refine (Machine.along_cons rfl).mpr ⟨?_, trivial⟩
    rintro _ item ⟨⟩ holder ⟨⟩
  · simp only [heldBySources, InputEvent.held, InputEvent.state, InputEvent.entry, Ledger.post,
      List.filterMap, List.foldl, Function.update_apply]
    split_ifs <;> simp_all

end Host
end Rflow
