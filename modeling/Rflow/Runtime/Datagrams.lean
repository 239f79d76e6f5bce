import Rflow.Foundation.Flow
import Rflow.Runtime.Upkeep
import Rflow.Runtime.WorldSteps

/-!
# Pointer datagrams

The host sends a datagram only for a motion that it has captured, and at most one.  The datagram
bears the number of the motion.
-/

namespace Rflow

open Foundation

/-- The number of a pointer datagram that the host sends. -/
def HostOutput.datagramNumber : HostOutput → Option Nat
  | sendDatagram _ motion => some motion.sequence
  | _ => none

/-- A pointer datagram that the host sends to a device. -/
def HostOutput.datagramTo (device : TopologyDeviceId) : HostOutput → Option MotionDto
  | sendDatagram other motion => if other = device then some motion else none
  | _ => none

/-- The number of a motion that goes to another screen. -/
def SessionEffect.sentNumber : SessionEffect → Option Nat
  | sendScreenMotion _ motion | sendRemoteMotion motion => some motion.sequence
  | _ => none

/-- The number of a captured motion. -/
def SessionEvent.capturedNumber : SessionEvent → Option Nat
  | physicalMotion motion => some motion.sequence
  | _ => none

/-- The motion that the loop takes. -/
def WorldInput.motion : WorldInput → Option (Nat × Motion)
  | turn (.capture (.ok (.motion source motion))) => some (source, motion)
  | _ => none

/-- Outputs without pointer datagrams. -/
def HostOutput.Motionless (output : HostOutput) : Prop := output.datagramNumber = none

/-! ## Effects of the session -/

section Effects

variable {closed : Finset Nat} {topology : ScreenTopology} {ready : Bool}
  {sources : LocalInputSources} {peers later : Peers} {outputs : List HostOutput}

theorem executeHostEffect_datagrams {effect : SessionEffect}
    (executed : executeHostEffect closed topology ready sources peers effect =
      .ok (outputs, later)) :
    outputs.filterMap HostOutput.datagramNumber = effect.sentNumber.toList := by
  cases effect with
  | releaseScreen screenId =>
      simp only [executeHostEffect] at executed
      split at executed
      · simp only [Outcome.bind_eq_ok, writeReliable_eq_ok, Outcome.pure_eq, Outcome.ok.injEq,
          Prod.mk.injEq] at executed
        obtain ⟨_, ⟨_, rfl⟩, rfl, _⟩ := executed
        rfl
      · obtain ⟨rfl, _⟩ := Prod.mk.inj (Outcome.ok.inj executed)
        rfl
  | releaseRemote =>
      simp only [executeHostEffect] at executed
      split at executed
      · simp only [Outcome.bind_eq_ok, writeReliable_eq_ok, Outcome.pure_eq, Outcome.ok.injEq,
          Prod.mk.injEq] at executed
        obtain ⟨_, _, _, ⟨_, rfl⟩, rfl, _⟩ := executed
        rfl
      · obtain ⟨rfl, _⟩ := Prod.mk.inj (Outcome.ok.inj executed)
        rfl
  | controlChanged control =>
      obtain ⟨rfl, _⟩ := Prod.mk.inj (Outcome.ok.inj executed)
      rfl
  | _ =>
      simp only [executeHostEffect, sendInput, Outcome.bind_eq_ok, writeReliable_eq_ok,
        sendDatagram_eq_ok, Outcome.pure_eq, Outcome.ok.injEq, Prod.mk.injEq] at executed
      first
        | obtain ⟨_, _, rfl, _⟩ := executed
          rfl
        | obtain ⟨_, _, _, ⟨_, rfl⟩, rfl, _⟩ := executed
          rfl
        | obtain ⟨_, _, _, _, _, ⟨_, rfl⟩, rfl, _⟩ := executed
          rfl

theorem executeHostEffectsMulti_datagrams {effects : List SessionEffect}
    (executed : executeHostEffectsMulti closed topology ready sources peers effects =
      .ok (outputs, later)) :
    outputs.filterMap HostOutput.datagramNumber = effects.filterMap SessionEffect.sentNumber := by
  induction effects generalizing peers outputs with
  | nil =>
      obtain ⟨rfl, _⟩ : [] = outputs ∧ peers = later := by
        simpa [executeHostEffectsMulti] using executed
      rfl
  | cons effect effects induction =>
      obtain ⟨first, middle, rest, stepped, remaining, rfl⟩ := Machine.run_cons_eq_ok.mp executed
      rw [List.filterMap_append, executeHostEffect_datagrams stepped, induction remaining,
        List.filterMap_cons]
      cases effect.sentNumber <;> rfl

end Effects

namespace DesktopSession

variable {session next : DesktopSession} {effects : List SessionEffect}

theorem injectAll_sentNumber (held : OrderedSet HeldInput) (state : ButtonState) :
    ∀ effect ∈ injectAll held state, effect.sentNumber = none := by
  simp [injectAll, SessionEffect.sentNumber]

theorem returnLocal_sentNumber (session : DesktopSession) (router : HostRouter)
    (previous : ScreenId) (x y : Int) :
    (session.returnLocal router previous x y).1.filterMap SessionEffect.sentNumber = [] := by
  simp [returnLocal, injectAll, or_imp, forall_and, SessionEffect.sentNumber]

theorem enterScreen_sentNumber (session : DesktopSession) (previous screenId : ScreenId)
    (x y : Int) :
    (session.enterScreen previous screenId x y).1.filterMap SessionEffect.sentNumber = [] := by
  unfold enterScreen
  cases session.control <;>
    simp [injectAll, sendAll, or_imp, forall_and, SessionEffect.sentNumber]

theorem followRoute_sentNumber (session : DesktopSession) (router : TopologyRouter)
    (localScreen previous : ScreenId) (motion : Motion) (route : TopologyRoute) :
    ((session.followRoute router localScreen previous motion route).1.filterMap
      SessionEffect.sentNumber).Sublist [motion.sequence] := by
  cases route with
  | stay screenId dx dy =>
      simp only [followRoute]
      split_ifs
      · exact List.nil_sublist _
      · exact List.Sublist.refl _
  | cross screenId x y =>
      simp only [followRoute]
      split_ifs
      · rw [returnLocal_sentNumber]
        exact List.nil_sublist _
      · rw [enterScreen_sentNumber]
        exact List.nil_sublist _

theorem followLegacyRoute_sentNumber (session : DesktopSession) (router : CursorRouter)
    (motion : Motion) (route : Route) :
    ((session.followLegacyRoute router motion route).1.filterMap
      SessionEffect.sentNumber).Sublist [motion.sequence] := by
  have silent {effects : List SessionEffect}
      (none : ∀ effect ∈ effects, effect.sentNumber = .none) :
      (effects.filterMap SessionEffect.sentNumber).Sublist [motion.sequence] := by
    rw [List.filterMap_eq_nil_iff.mpr none]
    exact List.nil_sublist _
  cases route with
  | localMotion dx dy => exact List.nil_sublist _
  | remoteMotion dx dy => exact List.Sublist.refl _
  | enterRemote x y =>
      refine silent ?_
      simp [followLegacyRoute, injectAll, or_imp, forall_and, SessionEffect.sentNumber]
  | enterLocal x y =>
      refine silent ?_
      simp [followLegacyRoute, injectAll, or_imp, forall_and, SessionEffect.sentNumber]

/-- A session sends no motion but the captured one, and that at most once. -/
theorem handle_sentNumber {event : SessionEvent}
    (handled : session.handle event = .ok (effects, next)) :
    (effects.filterMap SessionEffect.sentNumber).Sublist event.capturedNumber.toList := by
  have released : session.releaseInjected.1.filterMap SessionEffect.sentNumber = [] := by
    unfold releaseInjected
    split_ifs
    · rw [List.filterMap_append, List.filterMap_eq_nil_iff.mpr (injectAll_sentNumber _ _)]
      cases session.activeTopologyScreen <;> rfl
    · exact List.filterMap_eq_nil_iff.mpr (injectAll_sentNumber _ _)
  cases event with
  | physicalInput event =>
      have same : session.handlePhysicalInput event = (effects, next) := Outcome.ok.inj handled
      have sent :
          (session.handlePhysicalInput event).1.filterMap SessionEffect.sentNumber = [] := by
        unfold handlePhysicalInput
        split_ifs
        · rfl
        · cases session.control
          · rfl
          · simp only
            split <;> rfl
      rw [same] at sent
      rw [sent]
      exact List.nil_sublist _
  | physicalMotion motion =>
      simp only [handle, handlePhysicalMotion] at handled
      split at handled
      · obtain ⟨rfl, _⟩ := Prod.mk.inj (Outcome.ok.inj handled)
        exact List.nil_sublist _
      · simp only [Outcome.bind_eq_ok, Outcome.pure_eq, Outcome.ok.injEq] at handled
        obtain ⟨⟨route, router⟩, _, followed⟩ := handled
        obtain rfl : _ = effects := congrArg Prod.fst followed
        exact followRoute_sentNumber ..
      · simp only [Outcome.bind_eq_ok, Outcome.pure_eq, Outcome.ok.injEq] at handled
        obtain ⟨⟨route, router⟩, _, followed⟩ := handled
        obtain rfl : _ = effects := congrArg Prod.fst followed
        exact followLegacyRoute_sentNumber ..
  | remoteInput event =>
      obtain ⟨rfl, _⟩ := Prod.mk.inj (Outcome.ok.inj handled)
      exact List.nil_sublist _
  | remoteMotion motion =>
      simp only [handle] at handled
      split at handled <;> obtain ⟨rfl, _⟩ := Prod.mk.inj (Outcome.ok.inj handled) <;>
        exact List.nil_sublist _
  | enterRemote x y =>
      obtain ⟨rfl, _⟩ := Prod.mk.inj (Outcome.ok.inj handled)
      exact List.nil_sublist _
  | releaseRemote | peerDisconnected | stopRequested =>
      have same : session.releaseInjected = (effects, next) := Outcome.ok.inj handled
      rw [same] at released
      rw [released]
      exact List.nil_sublist _

theorem replaceTopology_sentNumber {topology : ScreenTopology}
    (replaced : session.replaceTopology topology = .ok (effects, next)) :
    effects.filterMap SessionEffect.sentNumber = [] := by
  unfold replaceTopology at replaced
  split at replaced
  · simp only at replaced
    split at replaced
    · simp only [Outcome.bind_eq_ok, Outcome.pure_eq, Outcome.ok.injEq] at replaced
      obtain ⟨_, _, _, _, placed, _, returned⟩ := replaced
      obtain rfl : _ = effects := congrArg Prod.fst returned
      exact returnLocal_sentNumber ..
    · simp only [Outcome.bind_eq_ok, Outcome.pure_eq, Outcome.ok.injEq, Prod.mk.injEq] at replaced
      obtain ⟨_, _, rfl, _⟩ := replaced
      rfl
  · cases replaced

end DesktopSession

/-! ## Branches of the loop -/

namespace Host

variable {primitives : Primitives} {config : HostConfig} {closed : Finset Nat} {host : Host}
  {stored : StoredLayout}

/-- The capture branch puts out what its effects do, if anything. -/
theorem captured_outputs {event : Outcome String CapturedEvent} :
    (host.captured closed event).outputs = [] ∨
      ∃ occurred effects session sources peers, event = .ok occurred ∧
        host.session.handle occurred.sessionEvent = .ok (effects, session) ∧
        executeHostEffectsMulti closed host.topology host.capturing sources host.peers effects =
          .ok ((host.captured closed event).outputs, peers) := by
  cases event with
  | err error => exact Or.inl rfl
  | panic message => exact Or.inl rfl
  | ok occurred =>
      obtain ⟨held, noted⟩ : ∃ held, host.noteSource occurred = { host with heldSources := held } :=
        ⟨_, noteSource_eq host occurred⟩
      cases handled : host.session.handle occurred.sessionEvent with
      | err error =>
          left
          simp [captured, Traced.bind_outputs, noted, handled, Outcome.mapErr]
      | panic message =>
          left
          simp [captured, Traced.bind_outputs, noted, handled, Outcome.mapErr]
      | ok asked =>
          cases executed : executeHostEffectsMulti closed host.topology host.capturing
              { current := some occurred.source, held } host.peers asked.1 with
          | err error =>
              left
              simp [captured, carryOut, Traced.bind_outputs, noted, handled, Outcome.mapErr,
                executed, Traced.emit]
          | panic message =>
              left
              simp [captured, carryOut, Traced.bind_outputs, noted, handled, Outcome.mapErr,
                executed, Traced.emit]
          | ok result =>
              refine Or.inr ⟨occurred, asked.1, asked.2, _, result.2, rfl, handled,
                executed.trans ?_⟩
              simp [captured, carryOut, Traced.bind_outputs, noted, handled, Outcome.mapErr,
                executed, Traced.emit]

/-- The capture branch sends the captured motion or none. -/
theorem captured_datagrams {event : Outcome String CapturedEvent} :
    ((host.captured closed event).outputs.filterMap HostOutput.datagramNumber).Sublist
      ((WorldInput.turn (.capture event)).motion.map fun taken => taken.2.sequence).toList := by
  obtain silent | ⟨occurred, effects, session, sources, peers, rfl, handled, executed⟩ :=
    @captured_outputs closed host event
  · rw [silent]
    exact List.nil_sublist _
  · rw [executeHostEffectsMulti_datagrams executed]
    have sent := DesktopSession.handle_sentNumber handled
    cases occurred <;> exact sent

theorem motionless_of_execution {topology : ScreenTopology} {ready : Bool}
    {sources : LocalInputSources} {peers later : Peers} {effects : List SessionEffect}
    {outputs : List HostOutput}
    (executed : executeHostEffectsMulti closed topology ready sources peers effects =
      .ok (outputs, later)) (silent : effects.filterMap SessionEffect.sentNumber = []) :
    ∀ output ∈ outputs, output.Motionless := by
  rw [← executeHostEffectsMulti_datagrams executed] at silent
  exact List.filterMap_eq_nil_iff.mp silent

theorem carryOut_motionless {current : Option Nat} {asked : List SessionEffect × DesktopSession}
    (silent : asked.1.filterMap SessionEffect.sentNumber = []) :
    (host.carryOut closed current asked).Emits HostOutput.Motionless :=
  .bind (Traced.emits_emit fun _ _ executed => motionless_of_execution executed silent)
    fun _ => by simp

theorem install_motionless {topology : ScreenTopology} :
    (host.install closed topology).Emits HostOutput.Motionless := by
  refine .bind_of_ok (by simp) fun asked replaced => carryOut_motionless ?_
  rw [Traced.lift_outcome, Outcome.mapErr_eq_ok] at replaced
  exact DesktopSession.replaceTopology_sentNumber replaced

theorem saveInventory_motionless {inventory : ScreenInventory} :
    (saveInventory inventory).Emits HostOutput.Motionless :=
  .bind (by simp) fun _ => by simp [HostOutput.Motionless, HostOutput.datagramNumber]

theorem refresh_motionless : (host.refresh closed stored).Emits HostOutput.Motionless :=
  .bind saveInventory_motionless fun _ => .bind (by simp) fun _ => .bind (by simp) fun _ =>
    install_motionless

theorem tell_motionless {outputs : List HostOutput}
    (motionless : ∀ output ∈ outputs, output.datagramNumber = none) :
    (Traced.tell outputs : Traced HostOutput RuntimeError PUnit).Emits HostOutput.Motionless :=
  motionless

theorem announceTopology_motionless : host.announceTopology.Emits HostOutput.Motionless :=
  tell_motionless (by simp [HostOutput.datagramNumber])

theorem arrange_motionless {files : TopologyFiles} :
    (host.arrange files stored).Emits HostOutput.Motionless := by
  unfold arrange
  split_ifs
  · simp
  · cases host.direction with
    | none => exact .bind (by simp) fun _ => by simp
    | some direction =>
        exact .bind (by simp) fun _ => .bind (by simp) fun _ =>
          .bind (tell_motionless (by simp [HostOutput.datagramNumber])) fun _ =>
            .bind (by simp) fun _ => by simp

theorem enterPeer_motionless {peer : HostPeer} :
    (host.enterPeer peer).Emits HostOutput.Motionless := by
  refine .bind (tell_motionless ?_) fun _ => .bind (tell_motionless ?_) fun _ =>
    .bind (tell_motionless ?_) fun _ => by simp
  · split <;> simp [HostOutput.datagramNumber]
  · simp [HostOutput.datagramNumber]
  · split_ifs <;> simp [HostOutput.datagramNumber]

theorem exchange_motionless (output : HostOutput) (exchange : output.OfExchange) :
    output.Motionless := by
  cases output with
  | sendDatagram => cases exchange
  | _ => rfl

theorem requestDecision_motionless {attempt : Attempt} {trust : TrustStore}
    {limiter : PairingRateLimiter} {introduction : Introduction} :
    (requestDecision primitives attempt trust limiter introduction).Emits
      HostOutput.Motionless := by
  unfold requestDecision
  rcases limiter.allow attempt.connection.remoteAddress.ip attempt.now with ⟨allowed, later⟩
  cases allowed with
  | false => exact .bind (reject_exchange.mono exchange_motionless) fun _ => by simp
  | true =>
      simp only [Bool.true_eq_false, if_false]
      refine .bind (tell_motionless (by simp [HostOutput.datagramNumber])) fun _ =>
        .bind (tell_motionless (by simp [HostOutput.datagramNumber])) fun _ => ?_
      split
      · exact .bind (reject_exchange.mono exchange_motionless) fun _ => by simp
      · exact .bind (rememberAccepted_emits exchange_motionless fun _ _ _ _ => rfl)
          fun _ => by simp

theorem authorizeHostPeer_motionless {attempt : Attempt} {trust : TrustStore}
    {limiter : PairingRateLimiter} :
    (authorizeHostPeer primitives config attempt trust limiter).Emits HostOutput.Motionless := by
  refine .bind (introduce_exchange.mono exchange_motionless) fun introduced => ?_
  cases introduced with
  | none => simp
  | some introduction =>
      simp only
      split
      · exact .bind (confirm_exchange.mono exchange_motionless) fun _ => .bind (by simp)
          fun _ => by simp
      · exact requestDecision_motionless

theorem setUpPeer_motionless {trustFile : TrustFile} {incoming : Incoming} :
    (host.setUpPeer primitives config trustFile incoming).Emits HostOutput.Motionless := by
  refine .bind (by simp) fun attempt => .bind authorizeHostPeer_motionless fun authorization => ?_
  obtain ⟨_ | authorized, trust, limiter⟩ := authorization
  · exact .bind (tell_motionless (by simp [HostOutput.datagramNumber])) fun _ => by simp
  · refine .bind (.bind (by simp) fun stream => ?_) fun _ => by simp
    cases stream with
    | none => simp
    | some stream =>
        exact .bind (by simp) fun _ => .bind (by simp) fun _ => .bind (by simp) fun _ =>
          .bind (by simp) fun _ => .bind (tell_motionless (by simp [HostOutput.datagramNumber]))
            fun _ => by simp

theorem admitPeer_motionless {files : TopologyFiles} {prepared : PreparedPeer} :
    (host.admitPeer closed files stored prepared).Emits HostOutput.Motionless :=
  .bind saveInventory_motionless fun _ => .bind arrange_motionless fun _ =>
    .bind install_motionless fun _ => .bind enterPeer_motionless fun _ =>
      .bind (tell_motionless (by simp [HostOutput.datagramNumber])) fun _ =>
        .bind announceTopology_motionless fun _ => .bind (by simp) fun _ =>
          .bind (tell_motionless (by simp [HostOutput.datagramNumber])) fun _ =>
            .bind (tell_motionless (by simp [HostOutput.datagramNumber])) fun _ => by simp

theorem accepted_motionless {files : TopologyFiles} {trustFile : TrustFile}
    {incoming : Incoming} :
    (host.accepted primitives config closed files trustFile stored incoming).Emits
      HostOutput.Motionless := by
  refine .bind setUpPeer_motionless fun prepared => ?_
  obtain ⟨_ | prepared, host⟩ := prepared
  · simp
  · exact admitPeer_motionless

theorem disconnected_motionless {device : TopologyDeviceId} {remote : SocketAddr} :
    (host.disconnected closed device remote stored).Emits HostOutput.Motionless := by
  unfold disconnected
  split_ifs
  · exact .bind refresh_motionless fun _ => .bind announceTopology_motionless fun _ =>
      .bind (tell_motionless (by simp [HostOutput.datagramNumber])) fun _ => by simp
  · simp

theorem inventoryReported_motionless {device : TopologyDeviceId} {remote : SocketAddr}
    {screens : ReportedScreens} :
    (host.inventoryReported closed device remote screens stored).Emits HostOutput.Motionless := by
  unfold inventoryReported
  split
  · split_ifs
    · exact .bind refresh_motionless fun _ => .bind announceTopology_motionless fun _ => by simp
    · simp
  · simp

theorem forgotten_motionless {deviceId : DeviceId} :
    (host.forgotten closed deviceId stored).Emits HostOutput.Motionless := by
  refine .bind (tell_motionless ?_) fun _ => .bind refresh_motionless fun _ =>
    .bind announceTopology_motionless fun _ => by simp
  split <;> simp [HostOutput.datagramNumber]

theorem broadcast_motionless {frame : HostPeer → ReliableEvent} {entries : List PeerEntry}
    {outputs : List HostOutput} (sent : broadcast closed frame entries = .ok outputs) :
    ∀ output ∈ outputs, output.datagramNumber = none := by
  induction entries generalizing outputs with
  | nil =>
      obtain rfl := Outcome.ok.inj sent
      simp
  | cons entry entries induction =>
      simp only [broadcast, Outcome.bind_eq_ok, writeReliable_eq_ok, Outcome.pure_eq,
        Outcome.ok.injEq] at sent
      obtain ⟨_, ⟨_, rfl⟩, others, sentOthers, rfl⟩ := sent
      exact List.forall_mem_cons.mpr ⟨rfl, induction sentOthers⟩

theorem refreshScreens_motionless {detected : Option (List DetectedScreen)} :
    (host.refreshScreens primitives config closed detected stored).Emits
      HostOutput.Motionless := by
  unfold refreshScreens
  split
  · simp
  · split_ifs
    · refine .bind refresh_motionless fun _ => .bind_of_ok (by simp) fun _ sent => ?_
      rw [Traced.lift_outcome] at sent
      exact .bind (tell_motionless (broadcast_motionless sent)) fun _ =>
        .bind announceTopology_motionless fun _ => by simp
    · simp

theorem heartbeat_motionless {detected : Option (List DetectedScreen)} :
    (host.heartbeat primitives config closed detected stored).Emits HostOutput.Motionless := by
  refine .bind refreshScreens_motionless fun _ => .bind_of_ok (by simp) fun _ sent => ?_
  rw [Traced.lift_outcome] at sent
  exact .bind (tell_motionless (broadcast_motionless sent)) fun _ => by simp

theorem topologyUpdated_motionless {topology : ScreenTopology} :
    (host.topologyUpdated closed topology stored).Emits HostOutput.Motionless :=
  .bind (by simp) fun _ => install_motionless

theorem finish_motionless : host.finish.Emits HostOutput.Motionless := by
  refine .bind (tell_motionless ?_) fun _ => .bind saveInventory_motionless fun _ =>
    .bind (by simp) fun _ => .bind (tell_motionless (by simp [HostOutput.datagramNumber]))
      fun _ => by simp
  intro output member
  obtain ⟨_, _, rfl⟩ := List.mem_map.mp member
  rfl

theorem stop_motionless : (host.stop closed).Emits HostOutput.Motionless := by
  unfold stop
  split_ifs
  · refine .bind_of_ok (by simp) fun asked handled => .bind (carryOut_motionless ?_) fun _ =>
      finish_motionless
    rw [Traced.lift_outcome, Outcome.mapErr_eq_ok] at handled
    exact List.eq_nil_of_sublist_nil (DesktopSession.handle_sentNumber handled)
  · exact finish_motionless

end Host

namespace World

variable {primitives : Primitives} {config : HostConfig} {world final next : World}
  {inputs : List WorldInput} {input : WorldInput} {outputs : List HostOutput}

/-- A step sends the captured motion or none. -/
theorem step_datagrams (stepped : step primitives config world input = .ok (outputs, next)) :
    (outputs.filterMap HostOutput.datagramNumber).Sublist
      (input.motion.map fun taken => taken.2.sequence).toList := by
  have silent (motionless : ∀ output ∈ outputs, output.Motionless) :
      (outputs.filterMap HostOutput.datagramNumber).Sublist
        (input.motion.map fun taken => taken.2.sequence).toList := by
    rw [List.filterMap_eq_nil_iff.mpr motionless]
    exact List.nil_sublist _
  cases input with
  | neighbour neighbour =>
      obtain ⟨_, rfl⟩ := step_neighbour stepped
      exact silent (by simp)
  | turn turn =>
      obtain ⟨host, _, turned⟩ := step_turn stepped
      rcases turn_cases turned with ⟨_, settled⟩ | ⟨queue, branch, turns, settled⟩
      · obtain ⟨rfl, _⟩ := Prod.mk.inj settled
        exact silent Host.stop_motionless
      · obtain ⟨rfl, _⟩ := Prod.mk.inj settled
        cases turns with
        | accept => exact silent Host.accepted_motionless
        | capture => exact Host.captured_datagrams
        | takeNotice => exact silent Host.disconnected_motionless
        | takeReport => exact silent Host.inventoryReported_motionless
        | takeForget => exact silent Host.forgotten_motionless
        | heartbeat => exact silent Host.heartbeat_motionless
        | takeTopology => exact silent Host.topologyUpdated_motionless

theorem datagrams_in_order (ran : Machine.run (step primitives config) world inputs =
      .ok (outputs, final)) :
    (outputs.filterMap HostOutput.datagramNumber).Sublist
      ((inputs.filterMap WorldInput.motion).map fun taken => taken.2.sequence) := by
  rw [List.map_filterMap]
  have thins {state next : World} {input : WorldInput} {outputs : List HostOutput}
      (stepped : step primitives config state input = .ok (outputs, next)) :
      (outputs.filterMap HostOutput.datagramNumber).Sublist
        (input.motion.map fun taken => taken.2.sequence).toList := step_datagrams stepped
  exact @Machine.run_thins _ _ _ _ _ (step primitives config) _ _ thins _ _ _ _ ran

end World

end Rflow
