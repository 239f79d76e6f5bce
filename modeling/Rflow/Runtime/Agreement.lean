import Rflow.Runtime.Client

/-!
# Held inputs on both ends

The host session, the channels to its peers and the sessions of the clients behind them, taken as
one system.  Frames wait in first-in first-out channels and are delivered in any interleaving with
the steps of the host.
-/

namespace Rflow

open Foundation

/-- A host session with its peers, the frames on the way to each device, and the clients. -/
structure Fleet where
  session : DesktopSession
  topology : ScreenTopology
  peers : Peers
  channels : TopologyDeviceId → List ReliableEvent
  clients : TopologyDeviceId → ClientState

inductive FleetInput where
  | captured (eventType code : Nat) (value : Int)
  | motion (motion : Motion)
  | replaceTopology (topology : ScreenTopology)
  | stopRequested
  | deliver (device : TopologyDeviceId)
  | deliverMotion (device : TopologyDeviceId) (dto : MotionDto)

/-- The frames among some outputs that go to a device. -/
def framesTo (device : TopologyDeviceId) (outputs : List HostOutput) : List ReliableEvent :=
  outputs.filterMap fun output =>
    match output with
    | .write target event => if target = device then some event else none
    | _ => none

namespace Fleet

variable (sources : LocalInputSources) (serverPeer : PeerSummary)

/-- Carry out what the session asks for and put the frames into the channels. -/
def carryOut (fleet : Fleet) (topology : ScreenTopology)
    (asked : List SessionEffect × DesktopSession) :
    Outcome RuntimeError (List HostOutput × Fleet) := do
  let (outputs, peers) ←
    executeHostEffectsMulti ∅ topology true sources fleet.peers asked.1
  pure (outputs,
    { fleet with
      session := asked.2
      topology
      peers
      channels := fun device => fleet.channels device ++ framesTo device outputs })

/-- One step of the host or of one client. -/
def step (fleet : Fleet) : FleetInput → Outcome RuntimeError (List HostOutput × Fleet)
  | .captured eventType code value =>
      match decodeNativeInput eventType code value with
      | .ok event =>
          fleet.carryOut sources fleet.topology (fleet.session.handlePhysicalInput event)
      | _ => .ok ([], fleet)
  | .motion motion => do
      let asked ← (fleet.session.handle (.physicalMotion motion)).mapErr RuntimeError.other
      fleet.carryOut sources fleet.topology asked
  | .replaceTopology topology => do
      let asked ← (fleet.session.replaceTopology topology).mapErr RuntimeError.other
      fleet.carryOut sources topology asked
  | .stopRequested => do
      let asked ← (fleet.session.handle .stopRequested).mapErr RuntimeError.other
      fleet.carryOut sources fleet.topology asked
  | .deliver device =>
      match fleet.channels device with
      | [] => .ok ([], fleet)
      | frame :: rest => do
          let (_, client) ← (fleet.clients device).handleReliable serverPeer frame
          pure ([],
            { fleet with
              channels := Function.update fleet.channels device rest
              clients := Function.update fleet.clients device client })
  | .deliverMotion device dto => do
      let (_, client) ← (fleet.clients device).handleDatagram dto
      pure ([], { fleet with clients := Function.update fleet.clients device client })

/-- The device that has control: the one that the active screen belongs to. -/
def controlledDevice (fleet : Fleet) : Option TopologyDeviceId :=
  match fleet.session.control, fleet.session.router with
  | .remoteControl, some (.topology router _) =>
      (router.topology.find router.active).map ScreenNode.deviceId
  | _, _ => none

/-- What the host takes a device to hold down. -/
def heldAt (fleet : Fleet) (device : TopologyDeviceId) : OrderedSet HeldInput :=
  if fleet.controlledDevice = some device then fleet.session.remoteInjected else ∅

end Fleet

/-- The device that the frames for a screen reach. -/
def landing (topology : ScreenTopology) (peers : Peers) (screenId : ScreenId) :
    Option TopologyDeviceId :=
  (topology.find screenId).bind fun node =>
    if node.deviceId ∈ peers then some node.deviceId else none

/-- The held inputs of a device after an effect of the host session. -/
def heldAfterEffect (lands : ScreenId → Option TopologyDeviceId) (device : TopologyDeviceId)
    (held : OrderedSet HeldInput) : SessionEffect → OrderedSet HeldInput
  | .sendScreen screenId event => if lands screenId = some device then observe held event else held
  | .releaseScreen screenId => if lands screenId = some device then ∅ else held
  | _ => held

/-- Effects of topology routing that send native inputs only. -/
def SessionEffect.Sendable : SessionEffect → Prop
  | .sendScreen _ event => event.Native
  | .sendRemote _ | .sendRemoteMotion _ | .enterRemote _ _ | .releaseRemote => False
  | _ => True

theorem framesTo_append (device : TopologyDeviceId) (first rest : List HostOutput) :
    framesTo device (first ++ rest) = framesTo device first ++ framesTo device rest :=
  List.filterMap_append

theorem framesTo_write (device target : TopologyDeviceId) (event : ReliableEvent) :
    framesTo device [.write target event] = if target = device then [event] else [] := by
  by_cases same : target = device <;> simp [framesTo, same]

theorem heldAfterFrame_of_decode {held : OrderedSet HeldInput} {frame : ReliableEvent}
    {event : InputEvent} (decoded : decodeInput frame = .ok event) :
    heldAfterFrame held frame = observe held event := by
  cases frame with
  | input sequence eventType code value => simp [heldAfterFrame, decoded]
  | _ => cases decoded

theorem landing_of_peerForScreen {peers : Peers} {topology : ScreenTopology} {screenId : ScreenId}
    {device : TopologyDeviceId} {peer : HostPeer}
    (reached : peerForScreen peers topology screenId = .ok (device, peer)) :
    landing topology peers screenId = some device := by
  obtain ⟨node, found, rfl, present⟩ := peerForScreen_eq_ok.mp reached
  have connected : node.deviceId ∈ peers := AList.lookup_isSome.mp (by simp [present])
  simp [landing, found, connected]

theorem landing_congr {topology : ScreenTopology} {peers next : Peers}
    (same : ∀ device, device ∈ next ↔ device ∈ peers) :
    landing topology next = landing topology peers := by
  funext screenId
  simp only [landing, same]

theorem landing_eq_none {peers : Peers} {topology : ScreenTopology} {screenId : ScreenId}
    (missing : ∀ found, peerForScreen peers topology screenId ≠ .ok found) :
    landing topology peers screenId = none := by
  unfold landing
  cases found : topology.find screenId with
  | none => rfl
  | some node =>
      have absent : node.deviceId ∉ peers := by
        intro connected
        obtain ⟨peer, present⟩ := Option.isSome_iff_exists.mp (AList.lookup_isSome.mpr connected)
        exact missing (node.deviceId, peer) (peerForScreen_eq_ok.mpr ⟨node, found, rfl, present⟩)
      simp [absent]

section Execution

variable {topology : ScreenTopology} {sources : LocalInputSources} {peers next : Peers}
  {outputs : List HostOutput}

/-- The frames of one effect change the held inputs of every device as the effect says, and the set
of connected devices stays. -/
theorem executeHostEffect_frames {effect : SessionEffect} (sendable : effect.Sendable)
    (executed : executeHostEffect ∅ topology true sources peers effect = .ok (outputs, next))
    (device : TopologyDeviceId) (held : OrderedSet HeldInput) :
    (∀ other, other ∈ next ↔ other ∈ peers) ∧
      (framesTo device outputs).foldl heldAfterFrame held =
        heldAfterEffect (landing topology peers) device held effect := by
  cases effect with
  | injectLocal event =>
      simp only [executeHostEffect, Outcome.check_bind_eq_ok, Outcome.pure_eq, Outcome.ok.injEq,
        Prod.mk.injEq] at executed
      obtain ⟨_, rfl, rfl⟩ := executed
      exact ⟨fun _ => Iff.rfl, rfl⟩
  | injectLocalMotion dx dy =>
      simp only [executeHostEffect, Outcome.check_bind_eq_ok, Outcome.pure_eq, Outcome.ok.injEq,
        Prod.mk.injEq] at executed
      obtain ⟨_, rfl, rfl⟩ := executed
      exact ⟨fun _ => Iff.rfl, rfl⟩
  | setLocalCursor x y =>
      simp only [executeHostEffect, Outcome.check_bind_eq_ok, Outcome.pure_eq, Outcome.ok.injEq,
        Prod.mk.injEq] at executed
      obtain ⟨_, rfl, rfl⟩ := executed
      exact ⟨fun _ => Iff.rfl, rfl⟩
  | sendScreen screenId event =>
      simp only [executeHostEffect, Outcome.bind_eq_ok, sendInput, Outcome.mapErr_eq_ok,
        writeReliable, Finset.notMem_empty, if_false, Outcome.pure_eq, Outcome.ok.injEq,
        Prod.mk.injEq] at executed
      obtain ⟨⟨target, peer⟩, found, frame, encoded, _, rfl, rfl, rfl⟩ := executed
      obtain ⟨sent, sameFrame, decoded⟩ :=
        decodeInput_encodeInput sendable (wrappingSucc peer.reliableSequence)
      obtain rfl := Outcome.ok.inj (encoded.symm.trans sameFrame)
      have lands := landing_of_peerForScreen found
      have connected : target ∈ peers := by
        obtain ⟨_, _, _, present⟩ := peerForScreen_eq_ok.mp found
        exact AList.lookup_isSome.mp (by simp [present])
      refine ⟨?_, ?_⟩
      · intro other
        rw [AList.mem_insert]
        exact ⟨fun either => either.elim (fun equal => equal ▸ connected) id, Or.inr⟩
      · rw [framesTo_write]
        by_cases same : target = device
        · simp [heldAfterEffect, lands, same, heldAfterFrame_of_decode decoded]
        · simp [heldAfterEffect, lands, same]
  | sendScreenMotion screenId motion =>
      simp only [executeHostEffect, Outcome.bind_eq_ok, sendDatagram, Finset.notMem_empty, if_false,
        Outcome.pure_eq, Outcome.ok.injEq, Prod.mk.injEq] at executed
      obtain ⟨_, _, _, rfl, rfl, rfl⟩ := executed
      exact ⟨fun _ => Iff.rfl, rfl⟩
  | enterScreen screenId x y =>
      simp only [executeHostEffect, Outcome.bind_eq_ok, writeReliable,
        Finset.notMem_empty, if_false, Outcome.pure_eq, Outcome.ok.injEq, Prod.mk.injEq] at executed
      obtain ⟨⟨target, peer⟩, found, _, rfl, rfl, rfl⟩ := executed
      refine ⟨fun _ => Iff.rfl, ?_⟩
      rw [framesTo_write]
      split_ifs <;> rfl
  | releaseScreen screenId =>
      simp only [executeHostEffect] at executed
      split at executed
      · rename_i target peer found
        simp only [writeReliable, Finset.notMem_empty, if_false, Outcome.ok_bind, Outcome.pure_eq,
          Outcome.ok.injEq, Prod.mk.injEq] at executed
        obtain ⟨rfl, rfl⟩ := executed
        refine ⟨fun _ => Iff.rfl, ?_⟩
        rw [framesTo_write]
        by_cases same : target = device <;>
          simp [heldAfterEffect, landing_of_peerForScreen found, same, heldAfterFrame]
      · rename_i missing
        obtain ⟨rfl, rfl⟩ := Prod.mk.inj (Outcome.ok.inj executed)
        refine ⟨fun _ => Iff.rfl, ?_⟩
        have nowhere := landing_eq_none fun found => missing found.1 found.2
        simp [heldAfterEffect, nowhere, framesTo]
  | controlChanged control =>
      obtain ⟨rfl, rfl⟩ := Prod.mk.inj (Outcome.ok.inj executed)
      exact ⟨fun _ => Iff.rfl, rfl⟩
  | sendRemote event => exact sendable.elim
  | sendRemoteMotion motion => exact sendable.elim
  | enterRemote x y => exact sendable.elim
  | releaseRemote => exact sendable.elim

theorem executeHostEffectsMulti_frames {effects : List SessionEffect}
    (sendable : ∀ effect ∈ effects, effect.Sendable)
    (executed : executeHostEffectsMulti ∅ topology true sources peers effects = .ok (outputs, next))
    (device : TopologyDeviceId) (held : OrderedSet HeldInput) :
    (∀ other, other ∈ next ↔ other ∈ peers) ∧
      (framesTo device outputs).foldl heldAfterFrame held =
        effects.foldl (heldAfterEffect (landing topology peers) device) held := by
  induction effects generalizing peers outputs held with
  | nil =>
      obtain ⟨rfl, rfl⟩ : [] = outputs ∧ peers = next := by
        simpa [executeHostEffectsMulti] using executed
      exact ⟨fun _ => Iff.rfl, rfl⟩
  | cons effect effects induction =>
      obtain ⟨first, middle, rest, stepped, remaining, rfl⟩ := Machine.run_cons_eq_ok.mp executed
      obtain ⟨samePeers, frames⟩ :=
        executeHostEffect_frames (sendable effect List.mem_cons_self) stepped device held
      obtain ⟨laterPeers, laterFrames⟩ :=
        induction (fun other member => sendable other (List.mem_cons_of_mem _ member)) remaining
          (heldAfterEffect (landing topology peers) device held effect)
      refine ⟨fun other => (laterPeers other).trans (samePeers other), ?_⟩
      rw [framesTo_append, List.foldl_append, frames, laterFrames, landing_congr samePeers,
        List.foldl_cons]

end Execution

/-! ## What the host holds down, seen from its session -/

theorem foldl_injectAll (lands : ScreenId → Option TopologyDeviceId) (device : TopologyDeviceId)
    (items : OrderedSet HeldInput) (state : ButtonState) (held : OrderedSet HeldInput) :
    (DesktopSession.injectAll items state).foldl (heldAfterEffect lands device) held = held := by
  unfold DesktopSession.injectAll
  induction items.toList generalizing held with
  | nil => rfl
  | cons item rest induction => exact induction held

theorem foldl_sendAll (lands : ScreenId → Option TopologyDeviceId) (device : TopologyDeviceId)
    (screenId : ScreenId) (items held : OrderedSet HeldInput) :
    (DesktopSession.sendAll screenId items).foldl (heldAfterEffect lands device) held =
      if lands screenId = some device then held.insertAll items.toList else held := by
  unfold DesktopSession.sendAll
  generalize items.toList = entries
  induction entries generalizing held with
  | nil => simp [OrderedSet.insertAll]
  | cons item rest induction =>
      rw [List.map_cons, List.foldl_cons, induction]
      by_cases lands : lands screenId = some device
      · simp [heldAfterEffect, lands, observe, OrderedSet.insertAll]
      · simp [heldAfterEffect, lands]

namespace DesktopSession

/-- A host session on topology routing that holds native inputs only, and nothing on a remote screen
while control is local. -/
structure Tracked (session : DesktopSession) (router : TopologyRouter) (localScreen : ScreenId) :
    Prop extends Routed session router localScreen where
  role : session.role = .host
  idle : session.control = .localControl → session.remoteInjected = ∅
  native : ∀ item ∈ session.physicalHeld, item.Native

/-- What the session takes a device to hold down. -/
def heldOn (lands : ScreenId → Option TopologyDeviceId) (session : DesktopSession)
    (active : ScreenId) (device : TopologyDeviceId) : OrderedSet HeldInput :=
  if session.control = .remoteControl ∧ lands
      active = some device then session.remoteInjected else ∅

/-- The effects can be sent and turn what a session holds on each device into what its successor
does. -/
structure Carries (lands : ScreenId → Option TopologyDeviceId) (session : DesktopSession)
    (active : ScreenId) (effects : List SessionEffect) (next : DesktopSession)
    (nextActive : ScreenId) : Prop where
  sendable : ∀ effect ∈ effects, effect.Sendable
  held : ∀ device, effects.foldl (heldAfterEffect lands device)
    (session.heldOn lands active device) = next.heldOn lands nextActive device

variable {session next : DesktopSession} {router nextRouter : TopologyRouter}
  {localScreen : ScreenId} {effects : List SessionEffect}
  {lands : ScreenId → Option TopologyDeviceId}

theorem heldOn_local (control : session.control = .localControl) (active : ScreenId)
    (device : TopologyDeviceId) : session.heldOn lands active device = ∅ := by
  simp [heldOn, control]

theorem injectAll_sendable (held : OrderedSet HeldInput) (state : ButtonState) :
    ∀ effect ∈ injectAll held state, effect.Sendable := by
  intro effect member
  obtain ⟨item, _, rfl⟩ := List.mem_map.mp member
  trivial

theorem Tracked.sendAll_sendable (tracked : session.Tracked router localScreen)
    (screenId : ScreenId) : ∀ effect ∈ sendAll screenId session.physicalHeld, effect.Sendable := by
  intro effect member
  obtain ⟨item, held, rfl⟩ := List.mem_map.mp member
  exact (tracked.native item held).event .pressed

theorem Tracked.returnLocal (tracked : session.Tracked router localScreen)
    (arrived : nextRouter.active = localScreen) {x y : Int}
    (returned : (effects, next) =
      session.returnLocal (.topology nextRouter localScreen) router.active x y) :
    next.Tracked nextRouter localScreen ∧
      Carries lands session router.active effects next nextRouter.active := by
  simp only [DesktopSession.returnLocal, Prod.mk.injEq] at returned
  obtain ⟨rfl, rfl⟩ := returned
  refine ⟨⟨⟨rfl, by simp [arrived]⟩, tracked.role, fun _ => rfl, tracked.native⟩, ?_, ?_⟩
  · intro effect member
    simp only [List.mem_append, List.mem_cons, List.not_mem_nil, or_false] at member
    rcases member with ((rfl | rfl) | member) | rfl
    · trivial
    · trivial
    · exact injectAll_sendable _ _ effect member
    · trivial
  · intro device
    refine Eq.trans ?_ (heldOn_local rfl _ _).symm
    simp only [List.foldl_append, List.foldl_cons, List.foldl_nil, foldl_injectAll,
      heldAfterEffect]
    by_cases reached : lands router.active = some device <;> simp [heldOn, reached]

theorem Tracked.enterScreen (tracked : session.Tracked router localScreen) {screenId : ScreenId}
    (arrived : nextRouter.active = screenId) (away : screenId ≠ localScreen) {x y : Int}
    (entered : (effects, next) =
      { session with router := some (.topology nextRouter localScreen) }.enterScreen
        router.active screenId x y) :
    next.Tracked nextRouter localScreen ∧
      Carries lands session router.active effects next nextRouter.active := by
  have sends := tracked.sendAll_sendable screenId
  have off : nextRouter.active ≠ localScreen := arrived ▸ away
  simp only [DesktopSession.enterScreen] at entered
  cases control : session.control with
  | localControl =>
      simp only [control, Prod.mk.injEq] at entered
      obtain ⟨rfl, rfl⟩ := entered
      refine ⟨⟨⟨rfl, by simp [off]⟩, tracked.role, (by simp), tracked.native⟩, ?_, ?_⟩
      · intro effect member
        simp only [List.mem_append, List.mem_cons, List.not_mem_nil, or_false] at member
        rcases member with (member | rfl | member) | rfl
        · exact injectAll_sendable _ _ effect member
        · trivial
        · exact sends effect member
        · trivial
      · intro device
        rw [heldOn_local control]
        simp only [List.foldl_append, List.foldl_cons, List.foldl_nil, foldl_injectAll,
          foldl_sendAll, heldAfterEffect, heldOn, arrived, true_and, tracked.idle control]
  | remoteControl =>
      simp only [control, Prod.mk.injEq] at entered
      obtain ⟨rfl, rfl⟩ := entered
      refine ⟨⟨⟨rfl, by simp [off]⟩, tracked.role, (by simp), tracked.native⟩, ?_, ?_⟩
      · intro effect member
        simp only [List.mem_cons] at member
        rcases member with rfl | rfl | member
        · trivial
        · trivial
        · exact sends effect member
      · intro device
        simp only [List.foldl_cons, foldl_sendAll, heldAfterEffect, heldOn, control, arrived,
          true_and]
        by_cases reached : lands router.active = some device <;> simp [reached]

theorem mem_observe {held : OrderedSet HeldInput} {event : InputEvent} {item : HeldInput}
    (member : item ∈ observe held event) : item ∈ held ∨ event.held = some item := by
  unfold observe at member
  split at member
  · rename_i pressed holds _
    rcases OrderedSet.mem_insert.mp member with rfl | old
    · exact Or.inr holds
    · exact Or.inl old
  · exact Or.inl (OrderedSet.mem_remove.mp member).1
  · exact Or.inl member

theorem Tracked.handlePhysicalInput (tracked : session.Tracked router localScreen)
    {event : InputEvent} (native : event.Native)
    (handled : (effects, next) = session.handlePhysicalInput event) :
    next.Tracked router localScreen ∧
      Carries lands session router.active effects next router.active := by
  have stillNative : ∀ item ∈ observe session.physicalHeld event, item.Native := fun item member =>
    (mem_observe member).elim (tracked.native item) native.held
  unfold DesktopSession.handlePhysicalInput at handled
  split_ifs at handled with orphan
  · obtain ⟨rfl, rfl⟩ := Prod.mk.inj handled
    exact ⟨tracked, by simp, fun _ => rfl⟩
  · cases control : session.control with
    | localControl =>
        simp only [control] at handled
        obtain ⟨rfl, rfl⟩ := Prod.mk.inj handled
        refine ⟨⟨⟨tracked.routes, control ▸ tracked.follows⟩, tracked.role,
          fun _ => tracked.idle control, stillNative⟩, ?_, fun device => ?_⟩
        · simp [SessionEffect.Sendable]
        · simp [heldAfterEffect, heldOn, control]
    | remoteControl =>
        have away := tracked.follows.mp control
        simp only [control, activeTopologyScreen, tracked.routes, ne_eq, away, not_false_iff,
          if_true] at handled
        obtain ⟨rfl, rfl⟩ := Prod.mk.inj handled
        refine ⟨⟨⟨rfl, control ▸ tracked.follows⟩, tracked.role, (by simp), stillNative⟩, ?_,
          fun device => ?_⟩
        · simpa [SessionEffect.Sendable] using native
        · by_cases reached : lands router.active = some device <;>
            simp [heldAfterEffect, heldOn, reached, control]

theorem Tracked.releaseInjected (tracked : session.Tracked router localScreen)
    (released : (effects, next) = session.releaseInjected) :
    next.Tracked router localScreen ∧
      Carries lands session router.active effects next router.active := by
  unfold DesktopSession.releaseInjected at released
  split_ifs at released with pending
  · have control : session.control = .remoteControl := by
      cases control : session.control with
      | localControl => exact absurd (tracked.idle control) pending.2
      | remoteControl => rfl
    have away := tracked.follows.mp control
    simp only [activeTopologyScreen, tracked.routes, ne_eq, away, not_false_iff, if_true,
      Prod.mk.injEq] at released
    obtain ⟨rfl, rfl⟩ := released
    refine ⟨⟨⟨rfl, tracked.follows⟩, tracked.role, fun _ => rfl, tracked.native⟩, ?_, ?_⟩
    · intro effect member
      rcases List.mem_append.mp member with member | member
      · exact injectAll_sendable _ _ effect member
      · obtain rfl := List.mem_singleton.mp member
        trivial
    · intro device
      simp only [List.foldl_append, List.foldl_cons, List.foldl_nil, foldl_injectAll]
      by_cases reached : lands router.active = some device <;>
        simp [heldAfterEffect, heldOn, reached]
  · obtain ⟨rfl, rfl⟩ := Prod.mk.inj released
    refine ⟨⟨⟨tracked.routes, tracked.follows⟩, tracked.role, tracked.idle, tracked.native⟩,
      injectAll_sendable _ _, fun device => ?_⟩
    rw [foldl_injectAll]
    rfl

theorem Tracked.swapRouter (tracked : session.Tracked router localScreen)
    (sameActive : nextRouter.active = router.active)
    (swapped : next = { session with router := some (.topology nextRouter localScreen) }) :
    next.Tracked nextRouter localScreen ∧
      Carries lands session router.active [] next nextRouter.active := by
  subst swapped
  refine ⟨⟨⟨rfl, sameActive ▸ tracked.follows⟩, tracked.role, tracked.idle, tracked.native⟩,
    by simp, fun device => ?_⟩
  rw [sameActive]
  rfl

theorem Tracked.handlePhysicalMotion (tracked : session.Tracked router localScreen)
    {motion : Motion} (handled : session.handlePhysicalMotion motion = .ok (effects, next)) :
    ∃ nextRouter, nextRouter.topology = router.topology ∧ next.Tracked nextRouter localScreen ∧
      (nextRouter.active = router.active ∨
        (router.topology.find nextRouter.active).isSome) ∧
      Carries lands session router.active effects next nextRouter.active := by
  obtain ⟨nextRouter, sameTopology, stayed | crossed⟩ :=
    handlePhysicalMotion_cases tracked.routes handled
  · obtain ⟨sameActive, swapped, rfl⟩ := stayed
    obtain ⟨nextTracked, _, held⟩ := tracked.swapRouter sameActive swapped
    refine ⟨nextRouter, sameTopology, nextTracked, Or.inl sameActive, ?_, fun device => ?_⟩
    · split_ifs <;> simp [SessionEffect.Sendable]
    · rw [← held device]
      split_ifs <;> rfl
  · obtain ⟨edge, target, x, y, linked, arrived, home | away⟩ := crossed
    · obtain ⟨nextTracked, carries⟩ := tracked.returnLocal (arrived.trans home.1) home.2
      refine ⟨nextRouter, sameTopology, nextTracked, Or.inr ?_, carries⟩
      rw [arrived]
      exact TopologyRouter.isSome_find_of_linkedEdge linked
    · obtain ⟨nextTracked, carries⟩ := tracked.enterScreen arrived away.1 away.2
      refine ⟨nextRouter, sameTopology, nextTracked, Or.inr ?_, carries⟩
      rw [arrived]
      exact TopologyRouter.isSome_find_of_linkedEdge linked

end DesktopSession

/-! ## The invariant of the fleet -/

/-- Every screen of the topology belongs to a fixed device, and every screen but the local one to a
connected one. -/
structure ScreenTopology.Served (topology : ScreenTopology) (deviceOf : ScreenId → TopologyDeviceId)
    (localScreen : ScreenId) (connected : Finset TopologyDeviceId) : Prop where
  owned : ∀ node ∈ topology.screens, node.deviceId = deviceOf node.screenId
  connected : ∀ node ∈ topology.screens, node.screenId ≠ localScreen → node.deviceId ∈ connected

theorem ScreenTopology.Served.landing {topology : ScreenTopology}
    {deviceOf : ScreenId → TopologyDeviceId} {localScreen : ScreenId}
    {connected : Finset TopologyDeviceId} {peers : Peers}
    (served : topology.Served deviceOf localScreen connected)
    (samePeers : ∀ device, device ∈ peers ↔ device ∈ connected) {screenId : ScreenId}
    (present : (topology.find screenId).isSome) (away : screenId ≠ localScreen) :
    Rflow.landing topology peers screenId = some (deviceOf screenId) := by
  obtain ⟨node, found⟩ := Option.isSome_iff_exists.mp present
  have member := find_mem found
  obtain rfl := find_screenId found
  simp [Rflow.landing, found, samePeers, served.connected node member away,
    ← served.owned node member]

/-- A topology that replaces the current one serves its screens as before. -/
def FleetInput.Serves (deviceOf : ScreenId → TopologyDeviceId) (localScreen : ScreenId)
    (connected : Finset TopologyDeviceId) : FleetInput → Prop
  | .replaceTopology topology => topology.Served deviceOf localScreen connected
  | _ => True

namespace Fleet

variable {deviceOf : ScreenId → TopologyDeviceId} {localScreen : ScreenId}
  {connected : Finset TopologyDeviceId} {sources : LocalInputSources} {serverPeer : PeerSummary}

/-- The session tracks what it holds, and the frames on the way to each device turn what its client
holds into what the host takes it to hold. -/
structure Agreeing (deviceOf : ScreenId → TopologyDeviceId) (localScreen : ScreenId)
    (connected : Finset TopologyDeviceId) (fleet : Fleet) (router : TopologyRouter) : Prop where
  tracked : fleet.session.Tracked router localScreen
  sameTopology : router.topology = fleet.topology
  present : router.active ≠ localScreen → (fleet.topology.find router.active).isSome
  served : fleet.topology.Served deviceOf localScreen connected
  samePeers : ∀ device, device ∈ fleet.peers ↔ device ∈ connected
  roles : ∀ device, (fleet.clients device).session.role = .client
  inFlight : ∀ device,
    (fleet.channels device).foldl heldAfterFrame (fleet.clients device).session.localInjected =
      fleet.session.heldOn (landing fleet.topology fleet.peers) router.active device

/-- The fleet agrees under some router. -/
def Agrees (deviceOf : ScreenId → TopologyDeviceId) (localScreen : ScreenId)
    (connected : Finset TopologyDeviceId) (fleet : Fleet) : Prop :=
  ∃ router, fleet.Agreeing deviceOf localScreen connected router

variable {fleet next : Fleet} {router : TopologyRouter} {outputs : List HostOutput}

/-- The two ways of saying what the host takes a device to hold. -/
theorem Agreeing.heldOn_eq (agreeing : fleet.Agreeing deviceOf localScreen connected router)
    (device : TopologyDeviceId) :
    fleet.session.heldOn (landing fleet.topology fleet.peers) router.active device =
      fleet.heldAt device := by
  unfold heldAt controlledDevice DesktopSession.heldOn
  rw [agreeing.tracked.routes]
  cases control : fleet.session.control with
  | localControl => simp
  | remoteControl =>
      have away := agreeing.tracked.follows.mp control
      have present := agreeing.present away
      obtain ⟨node, found⟩ := Option.isSome_iff_exists.mp present
      have owned := agreeing.served.owned node (ScreenTopology.find_mem found)
      rw [ScreenTopology.find_screenId found] at owned
      have lands := agreeing.served.landing agreeing.samePeers present away
      simp [lands, agreeing.sameTopology, found, owned]

/-- Carrying out effects keeps the agreement when the session says what they do to each device. -/
theorem Agreeing.carryOut (agreeing : fleet.Agreeing deviceOf localScreen connected router)
    {topology : ScreenTopology} {effects : List SessionEffect} {session : DesktopSession}
    {nextRouter : TopologyRouter} (tracked : session.Tracked nextRouter localScreen)
    (sameTopology : nextRouter.topology = topology)
    (activePresent : router.active ≠ localScreen → (topology.find router.active).isSome)
    (nextPresent : nextRouter.active ≠ localScreen → (topology.find nextRouter.active).isSome)
    (served : topology.Served deviceOf localScreen connected)
    (carries : fleet.session.Carries (landing topology fleet.peers) router.active effects session
      nextRouter.active)
    (carried : fleet.carryOut sources topology (effects, session) = .ok (outputs, next)) :
    next.Agreeing deviceOf localScreen connected nextRouter := by
  simp only [Fleet.carryOut, Outcome.bind_eq_ok, Outcome.pure_eq, Outcome.ok.injEq,
    Prod.mk.injEq] at carried
  obtain ⟨⟨outputs, peers⟩, executed, rfl, rfl⟩ := carried
  have frames := executeHostEffectsMulti_frames carries.sendable executed
  have keptPeers := (frames ⟨""⟩ ∅).1
  refine ⟨tracked, sameTopology, nextPresent, served,
    fun device => (keptPeers device).trans (agreeing.samePeers device), agreeing.roles,
    fun device => ?_⟩
  have before : fleet.session.heldOn (landing fleet.topology fleet.peers) router.active device =
      fleet.session.heldOn (landing topology fleet.peers) router.active device := by
    cases control : fleet.session.control with
    | localControl =>
        rw [DesktopSession.heldOn_local control, DesktopSession.heldOn_local control]
    | remoteControl =>
        have away := agreeing.tracked.follows.mp control
        unfold DesktopSession.heldOn
        rw [agreeing.served.landing agreeing.samePeers (agreeing.present away) away,
          served.landing agreeing.samePeers (activePresent away) away]
  rw [List.foldl_append, agreeing.inFlight device, before, (frames device _).2,
    carries.held device]
  dsimp only
  rw [landing_congr keptPeers]

/-- Delivering a frame moves it from the channel into the client. -/
theorem Agreeing.deliver (agreeing : fleet.Agreeing deviceOf localScreen connected router)
    {device : TopologyDeviceId} {frame : ReliableEvent} {rest : List ReliableEvent}
    (waiting : fleet.channels device = frame :: rest) {client : ClientState}
    {shown : List ClientOutput}
    (handled : (fleet.clients device).handleReliable serverPeer frame = .ok (shown, client)) :
    Agreeing deviceOf localScreen connected
      { fleet with
        channels := Function.update fleet.channels device rest
        clients := Function.update fleet.clients device client } router := by
  obtain ⟨role, injected⟩ := ClientState.handleReliable_localInjected
    (agreeing.roles device) handled
  refine ⟨agreeing.tracked, agreeing.sameTopology, agreeing.present, agreeing.served,
    agreeing.samePeers, fun other => ?_, fun other => ?_⟩
  · by_cases same : other = device
    · subst same
      simpa using role
    · simpa [same] using agreeing.roles other
  · by_cases same : other = device
    · subst same
      have before := agreeing.inFlight other
      rw [waiting, List.foldl_cons, ← injected] at before
      simpa using before
    · simpa [same] using agreeing.inFlight other

/-- A change of a client that keeps its role and what it holds keeps the agreement. -/
theorem Agreeing.updateClient (agreeing : fleet.Agreeing deviceOf localScreen connected router)
    {device : TopologyDeviceId} {client : ClientState}
    (role : client.session.role = (fleet.clients device).session.role)
    (injected : client.session.localInjected = (fleet.clients device).session.localInjected) :
    Agreeing deviceOf localScreen connected
      { fleet with clients := Function.update fleet.clients device client } router := by
  refine ⟨agreeing.tracked, agreeing.sameTopology, agreeing.present, agreeing.served,
    agreeing.samePeers, fun other => ?_, fun other => ?_⟩
  · by_cases same : other = device
    · subst same
      simpa [role] using agreeing.roles other
    · simpa [same] using agreeing.roles other
  · by_cases same : other = device
    · subst same
      simpa [injected] using agreeing.inFlight other
    · simpa [same] using agreeing.inFlight other

theorem Agrees.step (agrees : fleet.Agrees deviceOf localScreen connected)
    {input : FleetInput} (serves : input.Serves deviceOf localScreen connected)
    (stepped : fleet.step sources serverPeer input = .ok (outputs, next)) :
    next.Agrees deviceOf localScreen connected := by
  obtain ⟨router, agreeing⟩ := agrees
  have present := agreeing.present
  cases input with
  | captured eventType code value =>
      simp only [Fleet.step] at stepped
      split at stepped
      · rename_i event decoded
        obtain ⟨tracked, carries⟩ := agreeing.tracked.handlePhysicalInput
          (decodeNativeInput_native decoded) rfl
        exact ⟨router, agreeing.carryOut tracked agreeing.sameTopology present present
          agreeing.served carries stepped⟩
      · obtain ⟨_, rfl⟩ := Prod.mk.inj (Outcome.ok.inj stepped)
        exact ⟨router, agreeing⟩
  | motion motion =>
      simp only [Fleet.step, DesktopSession.handle, Outcome.bind_eq_ok, Outcome.mapErr_eq_ok]
        at stepped
      obtain ⟨⟨effects, session⟩, handled, carried⟩ := stepped
      obtain ⟨nextRouter, kept, tracked, shown, carries⟩ :=
        agreeing.tracked.handlePhysicalMotion handled
      have nextPresent : nextRouter.active ≠ localScreen →
          (fleet.topology.find nextRouter.active).isSome := by
        intro away
        rcases shown with same | shown
        · rw [same] at away ⊢
          exact present away
        · rwa [← agreeing.sameTopology]
      exact ⟨nextRouter, agreeing.carryOut tracked (kept.trans agreeing.sameTopology) present
        nextPresent agreeing.served carries carried⟩
  | replaceTopology topology =>
      simp only [Fleet.step, Outcome.bind_eq_ok, Outcome.mapErr_eq_ok] at stepped
      obtain ⟨⟨effects, session⟩, replaced, carried⟩ := stepped
      obtain ⟨_, listed, nextRouter, newTopology, lost | kept⟩ :=
        DesktopSession.replaceTopology_cases agreeing.tracked.routes replaced
      · obtain ⟨_, _, arrived, x, y, returned⟩ := lost
        obtain ⟨tracked, carries⟩ := agreeing.tracked.returnLocal arrived returned
        exact ⟨nextRouter, agreeing.carryOut tracked newTopology (fun _ => listed)
          (fun away => absurd arrived away) serves carries carried⟩
      · obtain ⟨_, sameActive, rfl, swapped⟩ := kept
        obtain ⟨tracked, carries⟩ := agreeing.tracked.swapRouter sameActive swapped
        exact ⟨nextRouter, agreeing.carryOut tracked newTopology (fun _ => listed)
          (fun _ => sameActive ▸ listed) serves carries carried⟩
  | stopRequested =>
      simp only [Fleet.step, DesktopSession.handle, Outcome.bind_eq_ok, Outcome.mapErr_eq_ok]
        at stepped
      obtain ⟨⟨effects, session⟩, released, carried⟩ := stepped
      obtain ⟨tracked, carries⟩ := agreeing.tracked.releaseInjected (Outcome.ok.inj released).symm
      exact ⟨router, agreeing.carryOut tracked agreeing.sameTopology present present
        agreeing.served carries carried⟩
  | deliver device =>
      simp only [Fleet.step] at stepped
      split at stepped
      · obtain ⟨_, rfl⟩ := Prod.mk.inj (Outcome.ok.inj stepped)
        exact ⟨router, agreeing⟩
      · rename_i frame rest waiting
        simp only [Outcome.bind_eq_ok, Outcome.pure_eq, Outcome.ok.injEq, Prod.mk.injEq] at stepped
        obtain ⟨⟨shown, client⟩, handled, _, rfl⟩ := stepped
        exact ⟨router, agreeing.deliver waiting handled⟩
  | deliverMotion device dto =>
      simp only [Fleet.step, Outcome.bind_eq_ok, Outcome.pure_eq, Outcome.ok.injEq,
        Prod.mk.injEq] at stepped
      obtain ⟨⟨shown, client⟩, handled, _, rfl⟩ := stepped
      obtain ⟨role, injected⟩ := ClientState.handleDatagram_localInjected handled
      exact ⟨router, agreeing.updateClient role injected⟩

/-- A new host session over its connected devices, nothing on the way and nothing held anywhere. -/
structure Starts (fleet : Fleet) (topology : ScreenTopology) (localScreen : ScreenId) (x y : Int) :
    Prop where
  built : DesktopSession.hostTopology topology localScreen x y = .ok fleet.session
  sameTopology : fleet.topology = topology
  channels : ∀ device, fleet.channels device = []
  clients : ∀ device, (fleet.clients device).session = DesktopSession.client

theorem Starts.agrees {topology : ScreenTopology} {x y : Int}
    (starts : fleet.Starts topology localScreen x y)
    (served : topology.Served deviceOf localScreen fleet.peers.keys.toFinset) :
    fleet.Agrees deviceOf localScreen fleet.peers.keys.toFinset := by
  obtain ⟨_, _, router, sameTopology, atHome, session⟩ :=
    DesktopSession.hostTopology_eq_ok starts.built
  have control : fleet.session.control = .localControl := by rw [session]
  have tracked : fleet.session.Tracked router localScreen := by
    rw [session]
    exact ⟨⟨rfl, by simp [atHome]⟩, rfl, fun _ => rfl, by simp⟩
  refine ⟨router, tracked, sameTopology.trans starts.sameTopology.symm,
    fun away => absurd atHome away, starts.sameTopology ▸ served, fun device => ?_,
    fun device => ?_, fun device => ?_⟩
  · rw [List.mem_toFinset, AList.mem_keys]
  · rw [starts.clients device]
    rfl
  · rw [starts.channels device, starts.clients device, DesktopSession.heldOn_local control]
    rfl

/-- Whenever nothing is on the way to a device, its client holds exactly what the host takes it to
hold: what the session has pressed remotely if the device has control, and nothing otherwise. -/
theorem run_agreement {fleet final : Fleet} {topology : ScreenTopology} {localScreen : ScreenId}
    {deviceOf : ScreenId → TopologyDeviceId} {x y : Int} {sources : LocalInputSources}
    {serverPeer : PeerSummary} {inputs : List FleetInput} {outputs : List HostOutput}
    (starts : fleet.Starts topology localScreen x y)
    (served : topology.Served deviceOf localScreen fleet.peers.keys.toFinset)
    (serves : ∀ input ∈ inputs, input.Serves deviceOf localScreen fleet.peers.keys.toFinset)
    (ran : Machine.run (step sources serverPeer) fleet inputs = .ok (outputs, final))
    {device : TopologyDeviceId} (arrived : final.channels device = []) :
    (final.clients device).session.localInjected = final.heldAt device := by
  have agrees : final.Agrees deviceOf localScreen fleet.peers.keys.toFinset := by
    refine Machine.run_preserves_on ?_ (starts.agrees served) serves ran
    intro state input outputs next agrees serves stepped
    exact agrees.step serves stepped
  obtain ⟨router, agreeing⟩ := agrees
  have reached := agreeing.inFlight device
  rw [arrived, agreeing.heldOn_eq] at reached
  exact reached

/-- The session on the local screen of the sample topology, over one connected client. -/
def sampleStart : Fleet where
  session :=
    { role := .host
      router := some (.topology
        { topology := sampleTopology true, active := ⟨"local"⟩, x := 99, y := 50,
            barrier := .reset }
        ⟨"local"⟩)
      control := .localControl
      physicalHeld := ∅
      localInjected := ∅
      remoteInjected := ∅
      lastRemoteMotion := none }
  topology := sampleTopology true
  peers := AList.singleton ⟨"peer"⟩ (samplePeer 0)
  channels := fun _ => []
  clients := fun _ =>
    { session := DesktopSession.client
      files := { inventory := .absent, layout := .absent }
      knownScreens := [] }

/-- A key goes down, the cursor crosses, and both frames of the crossing arrive. -/
theorem run_agreement_crossing :
    ∃ outputs final,
      Machine.run (step ⟨none, ∅⟩ (samplePeer 0).summary) sampleStart
          [.captured 1 30 1, .motion ⟨1, 1000000, 8, 0⟩, .motion ⟨2, 1250000, 1, 0⟩,
            .deliver ⟨"peer"⟩, .deliver ⟨"peer"⟩] = .ok (outputs, final) ∧
        (final.clients ⟨"peer"⟩).session.localInjected = final.heldAt ⟨"peer"⟩ := by
  have starts : sampleStart.Starts (sampleTopology true) ⟨"local"⟩ 99 50 :=
    ⟨rfl, rfl, fun _ => rfl, fun _ => rfl⟩
  have served : (sampleTopology true).Served
      (fun id => if id = ⟨"local"⟩ then ⟨"host"⟩ else ⟨"peer"⟩) ⟨"local"⟩
      sampleStart.peers.keys.toFinset := by
    constructor <;> intro node member <;>
      simp only [sampleTopology, List.mem_cons, List.not_mem_nil, or_false] at member <;>
      rcases member with rfl | rfl <;> decide
  obtain ⟨outputs, final, ran, arrived⟩ : ∃ outputs final,
      Machine.run (step ⟨none, ∅⟩ (samplePeer 0).summary) sampleStart
          [.captured 1 30 1, .motion ⟨1, 1000000, 8, 0⟩, .motion ⟨2, 1250000, 1, 0⟩,
            .deliver ⟨"peer"⟩, .deliver ⟨"peer"⟩] = .ok (outputs, final) ∧
        final.channels ⟨"peer"⟩ = [] := ⟨_, _, rfl, rfl⟩
  refine ⟨outputs, final, ran, run_agreement starts served ?_ ran arrived⟩
  simp [FleetInput.Serves]

end Fleet
end Rflow
