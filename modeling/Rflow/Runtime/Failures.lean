import Rflow.Core.Addressing
import Rflow.Runtime.WorldSteps

/-!
# How a turn of the loop fails

Which errors each branch of the loop can propagate.  A failed write names a peer whose connection is
closed; a missing connection names the device of a screen that something is sent to.
-/

namespace Rflow

open Foundation

/-- An error that is not about the connection of a peer. -/
def RuntimeError.Internal : RuntimeError → Prop
  | .streamWrite _ | .datagramSend _ | .notConnected _ => False
  | _ => True

/-- The device of a screen has a peer whose connection is closed. -/
def Cut (closed : Finset Nat) (topology : ScreenTopology) (peers : Peers) (screenId : ScreenId)
    (device : TopologyDeviceId) : Prop :=
  ∃ node peer, topology.find screenId = some node ∧ device = node.deviceId ∧
    peers.lookup device = some peer ∧ peer.connection.id ∈ closed

/-- An error of effects that send to some screens and release others: internal, a failed write to a
screen whose connection is closed, or a sent screen without a peer. -/
inductive Blames (closed : Finset Nat) (topology : ScreenTopology) (peers : Peers)
    (Sent Released : ScreenId → Prop) : RuntimeError → Prop where
  | internal {error : RuntimeError} (internal : error.Internal) :
      Blames closed topology peers Sent Released error
  | write {screenId : ScreenId} {device : TopologyDeviceId}
      (reached : Sent screenId ∨ Released screenId)
      (cut : Cut closed topology peers screenId device) :
      Blames closed topology peers Sent Released (.streamWrite device)
  | datagram {screenId : ScreenId} {device : TopologyDeviceId} (sent : Sent screenId)
      (cut : Cut closed topology peers screenId device) :
      Blames closed topology peers Sent Released (.datagramSend device)
  | absent {screenId : ScreenId} {node : ScreenNode} (sent : Sent screenId)
      (found : topology.find screenId = some node) (absent : node.deviceId ∉ peers) :
      Blames closed topology peers Sent Released (.notConnected node.deviceId)

/-- An error that names a peer whose connection is closed. -/
def OfClosed (closed : Finset Nat) (peers : Peers) (error : RuntimeError) : Prop :=
  ∃ device peer, peers.lookup device = some peer ∧ peer.connection.id ∈ closed ∧
    error = .streamWrite device

section Execution

variable {closed : Finset Nat} {topology : ScreenTopology} {ready : Bool}
  {sources : LocalInputSources} {peers next : Peers} {Sent Released : ScreenId → Prop}

theorem writeReliable_fails {device : TopologyDeviceId} {peer : HostPeer} {event : ReliableEvent} :
    (writeReliable closed device peer event).Fails fun error =>
      peer.connection.id ∈ closed ∧ error = .streamWrite device := by
  unfold writeReliable
  split_ifs with isClosed <;> simp [isClosed]

theorem sendDatagram_fails {device : TopologyDeviceId} {peer : HostPeer} {motion : Motion} :
    (sendDatagram closed device peer motion).Fails fun error =>
      peer.connection.id ∈ closed ∧ error = .datagramSend device := by
  unfold sendDatagram
  split_ifs with isClosed <;> simp [isClosed]

/-- Looking up the peer of a sent screen fails when the screen is unknown or its device not
connected. -/
theorem peerForScreen_fails {screenId : ScreenId} (sent : Sent screenId) :
    (peerForScreen peers topology screenId).Fails (Blames closed topology peers Sent Released) := by
  simp only [peerForScreen, deviceOfScreen]
  refine .bind (.bind (Outcome.fails_ofOption fun _ => .internal trivial) fun _ _ => by simp)
    fun deviceId found => .bind (Outcome.fails_ofOption fun absent => ?_) fun _ _ => by simp
  simp only [Outcome.bind_eq_ok, Outcome.ofOption_eq_ok, Outcome.pure_eq, Outcome.ok.injEq] at found
  obtain ⟨node, found, rfl⟩ := found
  refine .absent sent found ?_
  rw [← AList.lookup_eq_none]
  exact absent

theorem cut_of_peerForScreen {screenId : ScreenId} {device : TopologyDeviceId} {peer : HostPeer}
    (found : peerForScreen peers topology screenId = .ok (device, peer))
    (isClosed : peer.connection.id ∈ closed) : Cut closed topology peers screenId device := by
  obtain ⟨node, listed, same, present⟩ := peerForScreen_eq_ok.mp found
  exact ⟨node, peer, listed, same, present, isClosed⟩

theorem executeHostEffect_fails {effect : SessionEffect} (within : effect.Within Sent Released) :
    (executeHostEffect closed topology ready sources peers effect).Fails
      (Blames closed topology peers Sent Released) := by
  cases effect with
  | injectLocal | injectLocalMotion | setLocalCursor =>
      exact .bind (Outcome.fails_require (.internal trivial)) fun _ _ => by simp
  | sendScreen screenId event =>
      refine .bind (peerForScreen_fails within) fun ⟨device, peer⟩ found => ?_
      refine .bind ?_ fun _ _ => .bind (fun error failed => ?_) fun _ _ => by simp
      · rw [Outcome.fails_mapErr]
        exact Outcome.fails_of_forall fun _ => .internal trivial
      · obtain ⟨isClosed, rfl⟩ := writeReliable_fails error failed
        exact .write (Or.inl within) (cut_of_peerForScreen found isClosed)
  | sendScreenMotion screenId motion =>
      refine .bind (peerForScreen_fails within) fun ⟨device, peer⟩ found =>
        .bind (fun error failed => ?_) fun _ _ => by simp
      obtain ⟨isClosed, rfl⟩ := sendDatagram_fails error failed
      exact .datagram within (cut_of_peerForScreen found isClosed)
  | enterScreen screenId x y =>
      refine .bind (peerForScreen_fails within) fun ⟨device, peer⟩ found =>
        .bind (fun error failed => ?_) fun _ _ => by simp
      obtain ⟨isClosed, rfl⟩ := writeReliable_fails error failed
      exact .write (Or.inl within) (cut_of_peerForScreen found isClosed)
  | releaseScreen screenId =>
      simp only [executeHostEffect]
      split
      · rename_i device peer found
        refine .bind (fun error failed => ?_) fun _ _ => by simp
        obtain ⟨isClosed, rfl⟩ := writeReliable_fails error failed
        exact .write (Or.inr within) (cut_of_peerForScreen found isClosed)
      · simp
  | controlChanged => simp [executeHostEffect]
  | sendRemote | sendRemoteMotion | enterRemote | releaseRemote => exact within.elim

/-- Sent frames do not change whom an error is about. -/
theorem Blames.of_sameConnections (same : SameConnections peers next) {error : RuntimeError}
    (blames : Blames closed topology next Sent Released error) :
    Blames closed topology peers Sent Released error := by
  have cutBack {screenId : ScreenId} {device : TopologyDeviceId}
      (cut : Cut closed topology next screenId device) :
      Cut closed topology peers screenId device := by
    obtain ⟨node, peer, found, sameDevice, present, isClosed⟩ := cut
    obtain ⟨old, oldPresent, _, connection⟩ := same.back present
    exact ⟨node, old, found, sameDevice, oldPresent, connection ▸ isClosed⟩
  cases blames with
  | internal internal => exact .internal internal
  | write reached cut => exact .write reached (cutBack cut)
  | datagram sent cut => exact .datagram sent (cutBack cut)
  | absent sent found absent =>
      exact .absent sent found fun member => absent (same.mem_iff.mpr member)

theorem OfClosed.of_sameConnections (same : SameConnections peers next)
    {error : RuntimeError} (ofClosed : OfClosed closed next error) :
    OfClosed closed peers error := by
  obtain ⟨device, peer, present, isClosed, rfl⟩ := ofClosed
  obtain ⟨old, oldPresent, _, connection⟩ := same.back present
  exact ⟨device, old, oldPresent, connection ▸ isClosed, rfl⟩

theorem executeHostEffectsMulti_fails {effects : List SessionEffect}
    (within : ∀ effect ∈ effects, effect.Within Sent Released) :
    (executeHostEffectsMulti closed topology ready sources peers effects).Fails
      (Blames closed topology peers Sent Released) := by
  induction effects generalizing peers with
  | nil => exact fun error failed => by cases failed
  | cons effect effects induction =>
      obtain ⟨first, rest⟩ := List.forall_mem_cons.mp within
      intro error failed
      rcases Machine.run_cons_eq_err.mp failed with stepped | ⟨_, middle, stepped, remaining⟩
      · exact executeHostEffect_fails first error stepped
      · exact (induction rest error remaining).of_sameConnections
          (executeHostEffect_returns stepped).1

end Execution

/-! ## Setting a peer up -/

section Setup

variable {primitives : Primitives} {config : HostConfig} {attempt : Attempt}

theorem readFrame_fails {ε : Type} {kind : String} {codec : Framing.Codec ε} {stream : PeerStream} :
    (stream.readFrame kind codec).Fails RuntimeError.Internal := by
  unfold PeerStream.readFrame
  split
  · simp
  · split_ifs <;> simp [RuntimeError.Internal]
  · simp [RuntimeError.Internal]
  · simp [RuntimeError.Internal]
  · simp

theorem mapErr_peerSetup_fails {α : Type} {call : Outcome String α} :
    (call.mapErr RuntimeError.peerSetup).Fails RuntimeError.Internal := by
  rw [Outcome.fails_mapErr]
  exact Outcome.fails_of_forall fun _ => trivial

theorem StreamWait.result_fails {failure : String} {wait : StreamWait} :
    (wait.result failure).Fails RuntimeError.Internal := by
  cases wait <;> simp [StreamWait.result, RuntimeError.Internal]

theorem FrameWrite.result_fails {write : FrameWrite} :
    write.result.Fails RuntimeError.Internal := by
  cases write <;> simp [FrameWrite.result, RuntimeError.Internal]

theorem introduce_fails : (introduce primitives config attempt).Fails RuntimeError.Internal := by
  refine .bind ?_ fun certificate => .bind (by simp [StreamWait.result_fails]) fun stream => ?_
  · cases attempt.identity with
    | chain certificates => exact Outcome.fails_ofOption fun _ => trivial
    | missing => simp [peerCertificate, RuntimeError.Internal]
    | unsupported => simp [peerCertificate, RuntimeError.Internal]
  · cases stream with
    | none => simp
    | some stream =>
        exact .bind readFrame_fails fun _ => .bind mapErr_peerSetup_fails fun _ => .bind (by simp)
          fun _ => .bind FrameWrite.result_fails fun _ => .bind (by simp) fun _ =>
            .bind mapErr_peerSetup_fails fun _ => by simp

theorem confirm_fails {receive : PeerStream} :
    (confirm primitives attempt receive).Fails RuntimeError.Internal := by
  refine .bind FrameWrite.result_fails fun _ => .bind (by simp) fun _ =>
    Outcome.Fails.bind readFrame_fails fun ⟨message, _⟩ _ => ?_
  cases message <;> simp [RuntimeError.Internal]

theorem reject_fails : (reject attempt).Fails RuntimeError.Internal := by
  simp [reject]

theorem finishPairingStream_fails : (finishPairingStream attempt).Fails RuntimeError.Internal :=
  Outcome.fails_require trivial

theorem rememberAccepted_fails {trust : TrustStore} {introduction : Introduction} :
    (rememberAccepted primitives attempt trust introduction).Fails RuntimeError.Internal :=
  .bind (by simp) fun _ => .bind mapErr_peerSetup_fails fun _ => .bind confirm_fails fun _ =>
    .bind (by simp) fun _ => .bind finishPairingStream_fails fun _ => by simp

theorem requestDecision_fails {trust : TrustStore} {limiter : PairingRateLimiter}
    {introduction : Introduction} :
    (requestDecision primitives attempt trust limiter introduction).Fails
        RuntimeError.Internal := by
  unfold requestDecision
  rcases limiter.allow attempt.connection.remoteAddress.ip attempt.now with ⟨allowed, later⟩
  cases allowed with
  | false => exact .bind reject_fails fun _ => by simp
  | true =>
      simp only [Bool.true_eq_false, if_false]
      refine .bind (by simp) fun _ => .bind (by simp) fun _ => ?_
      split_ifs
      · exact .bind reject_fails fun _ => by simp
      · exact .bind rememberAccepted_fails fun _ => by simp

theorem authorizeHostPeer_fails {trust : TrustStore} {limiter : PairingRateLimiter} :
    (authorizeHostPeer primitives config attempt trust limiter).Fails RuntimeError.Internal := by
  refine .bind introduce_fails fun introduced => ?_
  cases introduced with
  | none => simp
  | some introduction =>
      simp only
      split_ifs
      · exact .bind confirm_fails fun _ => .bind finishPairingStream_fails fun _ => by simp
      · exact requestDecision_fails

theorem prepareHostPeer_fails {summary : PeerSummary} {screens : List DetectedScreen} :
    (prepareHostPeer primitives attempt summary screens).Fails RuntimeError.Internal := by
  refine .bind StreamWait.result_fails fun stream => ?_
  cases stream with
  | none => simp [RuntimeError.Internal]
  | some stream =>
      refine .bind readFrame_fails fun ⟨message, _⟩ => .bind ?_ fun _ =>
        .bind (Outcome.fails_require trivial) fun _ =>
          .bind (Outcome.fails_require trivial) fun _ => .bind (by simp) fun _ => by simp
      cases message with
      | clientHello version screens =>
          simp only [clientScreens]
          split_ifs
          · exact mapErr_peerSetup_fails
          · simp [RuntimeError.Internal]
      | _ => simp [clientScreens, RuntimeError.Internal]

theorem Host.setUpPeer_fails {host : Host} {trustFile : TrustFile} {incoming : Incoming} :
    (host.setUpPeer primitives config trustFile incoming).Fails RuntimeError.Internal := by
  refine .bind ?_ fun attempt => .bind authorizeHostPeer_fails fun authorization => ?_
  · cases incoming <;> simp [acceptOne, RuntimeError.Internal]
  · obtain ⟨_ | authorized, trust, limiter⟩ := authorization
    · exact .bind (by simp) fun _ => by simp
    · exact .bind prepareHostPeer_fails fun _ => by simp

end Setup

/-! ## The branches of the loop -/

namespace Host

variable {primitives : Primitives} {config : HostConfig} {closed : Finset Nat} {host : Host}
  {stored : StoredLayout} {topology : ScreenTopology} {router : TopologyRouter}
  {localScreen : ScreenId}

theorem mapErr_other_fails {α : Type} {call : Outcome String α} :
    (call.mapErr RuntimeError.other).Fails RuntimeError.Internal := by
  rw [Outcome.fails_mapErr]
  exact Outcome.fails_of_forall fun _ => trivial

theorem carryOut_fails {current : Option Nat} {asked : List SessionEffect × DesktopSession}
    {Sent Released : ScreenId → Prop} (within : ∀ effect ∈ asked.1, effect.Within Sent Released) :
    (host.carryOut closed current asked).Fails
      (Blames closed host.topology host.peers Sent Released) := by
  refine .bind ?_ fun _ => by simp
  rw [Traced.fails_emit]
  exact executeHostEffectsMulti_fails within

/-- An error of taking a topology over: internal, or a failed write to a screen that the cursor
leaves. -/
abbrev InstallBlames (closed : Finset Nat) (host : Host) (topology : ScreenTopology) :
    RuntimeError → Prop :=
  Blames closed topology host.peers (fun _ => False) (host.session.Leaves topology)

theorem install_fails (routed : host.session.Routed router localScreen) :
    (host.install closed topology).Fails (host.InstallBlames closed topology) := by
  refine .bind_of_ok ?_ fun _ ⟨effects, session⟩ returned => carryOut_fails ?_
  · intro error failed
    exact .internal (mapErr_other_fails error failed)
  · simp only [Traced.returns_lift, Outcome.mapErr_eq_ok] at returned
    exact routed.replaceTopology_within returned.1

theorem saveInventory_fails {inventory : ScreenInventory} :
    (saveInventory inventory).Fails RuntimeError.Internal := by
  refine .bind ?_ fun _ => by simp
  rw [Traced.fails_lift, Outcome.fails_mapErr]
  exact Outcome.fails_of_forall fun _ => trivial

/-- An error of a refresh: internal, or one of taking the resolved topology over. -/
def RefreshBlames (closed : Finset Nat) (stored : StoredLayout) (host : Host)
    (error : RuntimeError) : Prop :=
  error.Internal ∨ ∃ layout topology, stored = .ok layout ∧
    layout.resolve host.inventory = .ok topology ∧ host.InstallBlames closed topology error

theorem refresh_fails (routed : host.session.Routed router localScreen) :
    (host.refresh closed stored).Fails (host.RefreshBlames closed stored) := by
  have internal {α : Type} {call : Outcome RuntimeError α}
      (fails : call.Fails RuntimeError.Internal) :
      call.Fails (host.RefreshBlames closed stored) := fun error failed => Or.inl
          (fails error failed)
  refine .bind (internal saveInventory_fails) fun _ => .bind_of_ok (internal mapErr_other_fails)
    fun _ layout loaded => .bind_of_ok (internal ?_) fun _ topology resolved => ?_
  · rw [Traced.lift_outcome, Outcome.fails_mapErr]
    exact Outcome.fails_of_forall fun _ => trivial
  · simp only [Traced.returns_lift, Outcome.mapErr_eq_ok] at loaded resolved
    intro error failed
    have sameSession : ({ host with layout } : Host).session.Routed router localScreen := routed
    exact Or.inr ⟨layout, topology, loaded.1, resolved.1, install_fails sameSession error failed⟩

/-- An error of a captured event: internal, or one of carrying its effects out. -/
theorem captured_fails (routed : host.session.Routed router localScreen)
    {event : Outcome String CapturedEvent} :
    (host.captured closed event).Fails fun error =>
      error.Internal ∨ ∃ occurred, event = .ok occurred ∧
        Blames closed host.topology host.peers (host.session.Sends occurred.sessionEvent)
          (host.session.Releases occurred.sessionEvent) error := by
  unfold captured
  refine Traced.Fails.bind_of_ok (fun error failed => Or.inl (mapErr_other_fails error failed)) ?_
  intro _ occurred happened
  refine Traced.Fails.bind_of_ok (fun error failed => Or.inl (mapErr_other_fails error failed)) ?_
  intro _ ⟨effects, session⟩ handled
  refine Traced.Fails.bind ?_ fun _ => by simp
  simp only [Traced.returns_lift, Outcome.mapErr_eq_ok] at happened handled
  rw [noteSource_eq] at handled ⊢
  have physical : (∃ input, occurred.sessionEvent = .physicalInput input) ∨
      ∃ motion, occurred.sessionEvent = .physicalMotion motion := by
    cases occurred with
    | input source event => exact Or.inl ⟨event, rfl⟩
    | motion source motion => exact Or.inr ⟨motion, rfl⟩
  have within := routed.handle_within physical handled.1
  intro error failed
  have blames := carryOut_fails within error failed
  exact Or.inr ⟨occurred, happened.1, blames⟩

theorem topologyUpdated_fails (routed : host.session.Routed router localScreen) :
    (host.topologyUpdated closed topology stored).Fails (host.InstallBlames closed topology) := by
  refine .bind (fun error failed => .internal (mapErr_other_fails error failed)) fun layout => ?_
  have sameSession : ({ host with layout } : Host).session.Routed router localScreen := routed
  exact install_fails sameSession

theorem announceTopology_fails : host.announceTopology.Fails RuntimeError.Internal := by
  simp [announceTopology]

/-- What follows a refresh cannot fail. -/
theorem refresh_bind_fails {next : Host → Traced HostOutput RuntimeError Host}
    (routed : host.session.Routed router localScreen)
    (safe : ∀ later, (next later).Fails RuntimeError.Internal) :
    (host.refresh closed stored >>= next).Fails (host.RefreshBlames closed stored) :=
  .bind (refresh_fails routed) fun later error failed => Or.inl (safe later error failed)

theorem disconnected_fails (routed : host.session.Routed router localScreen)
    {device : TopologyDeviceId} {remote : SocketAddr} :
    (host.disconnected closed device remote stored).Fails fun error =>
      ((host.peers.lookup device).any fun peer => peer.connection.remoteAddress = remote) = true ∧
        ({ host with
          peers := host.peers.erase device
          inventory := host.inventory.markOffline device } : Host).RefreshBlames closed
              stored error := by
  unfold disconnected
  split_ifs with current
  · have sameSession : ({ host with
        peers := host.peers.erase device
        inventory := host.inventory.markOffline device } : Host).session.Routed router
            localScreen :=
      routed
    intro error failed
    refine ⟨current, refresh_bind_fails sameSession (fun later => ?_) error failed⟩
    exact .bind announceTopology_fails fun _ => .bind (by simp) fun _ => by simp
  · simp

theorem inventoryReported_fails (routed : host.session.Routed router localScreen)
    {device : TopologyDeviceId} {remote : SocketAddr} {screens : ReportedScreens} :
    (host.inventoryReported closed device remote screens stored).Fails fun error =>
      ∃ peer, host.peers.lookup device = some peer ∧ peer.connection.remoteAddress = remote ∧
        ({ host with
          inventory := mergeRemoteInventory host.inventory peer.summary screens } :
            Host).RefreshBlames closed stored error := by
  unfold inventoryReported
  split
  · rename_i peer present
    split_ifs with current
    · have sameSession : ({ host with
          inventory := mergeRemoteInventory host.inventory peer.summary screens } :
            Host).session.Routed router localScreen := routed
      intro error failed
      refine ⟨peer, present, current, refresh_bind_fails sameSession (fun later => ?_) error failed⟩
      exact .bind announceTopology_fails fun _ => by simp
    · simp
  · simp

theorem forgotten_fails (routed : host.session.Routed router localScreen) {deviceId : DeviceId} :
    (host.forgotten closed deviceId stored).Fails
      (({ host with
        peers := host.peers.erase deviceId.topologyId
        inventory := host.inventory.markOffline deviceId.topologyId } : Host).RefreshBlames
          closed stored) := by
  have sameSession : ({ host with
      peers := host.peers.erase deviceId.topologyId
      inventory := host.inventory.markOffline deviceId.topologyId } : Host).session.Routed
        router localScreen := routed
  exact .bind (by simp) fun _ => refresh_bind_fails sameSession fun later =>
    .bind announceTopology_fails fun _ => by simp

/-- When nothing is sent, an error is internal or names a peer whose connection is closed. -/
theorem InstallBlames.cases {error : RuntimeError}
    (blames : host.InstallBlames closed topology error) :
    error.Internal ∨ OfClosed closed host.peers error := by
  cases blames with
  | internal internal => exact Or.inl internal
  | write _ cut =>
      obtain ⟨_, peer, _, _, present, isClosed⟩ := cut
      exact Or.inr ⟨_, peer, present, isClosed, rfl⟩
  | datagram sent => exact sent.elim
  | absent sent => exact sent.elim

theorem broadcast_fails {frame : HostPeer → ReliableEvent} {entries : List PeerEntry} :
    (broadcast closed frame entries).Fails fun error =>
      ∃ entry ∈ entries, entry.2.connection.id ∈ closed ∧ error = .streamWrite entry.1 := by
  induction entries with
  | nil => exact fun error failed => by cases failed
  | cons entry entries induction =>
      refine .bind (fun error failed => ?_) fun _ _ => .bind (fun error failed => ?_)
        fun _ _ => by simp
      · exact ⟨entry, List.mem_cons_self, writeReliable_fails error failed⟩
      · obtain ⟨other, member, isClosed⟩ := induction error failed
        exact ⟨other, List.mem_cons_of_mem _ member, isClosed⟩

/-- A broadcast over a table fails only at a peer whose connection is closed. -/
theorem broadcast_entries_fails {frame : HostPeer → ReliableEvent} {peers : Peers} :
    (broadcast closed frame peers.entries).Fails (OfClosed closed peers) := by
  intro error failed
  obtain ⟨⟨device, peer⟩, member, isClosed, same⟩ := broadcast_fails error failed
  exact ⟨device, peer, (List.mem_dlookup_iff peers.nodupKeys).mpr member, isClosed, same⟩

theorem refreshScreens_fails (routed : host.session.Routed router localScreen)
    {detected : Option (List DetectedScreen)} :
    (host.refreshScreens primitives config closed detected stored).Fails fun error =>
      error.Internal ∨ OfClosed closed host.peers error := by
  unfold refreshScreens
  split
  · simp
  · rename_i screens
    split_ifs
    · have sameSession : ({ host with
          detectedScreens := screens
          inventory := mergeLocalInventory host.inventory config.deviceName
            (primitives.sha256 config.certificate) screens } : Host).session.Routed router
                localScreen :=
        routed
      refine Traced.Fails.bind_of_ok (fun error failed => ?_) fun _ later returned => ?_
      · rcases refresh_fails sameSession error failed with internal | ⟨_, _, _, _, blames⟩
        · exact Or.inl internal
        · exact blames.cases
      · have same := (refresh_returns returned).sameConnections
        refine .bind (fun error failed => Or.inr ?_) fun _ => .bind (by simp) fun _ =>
          .bind (fun error failed => Or.inl (announceTopology_fails error failed)) fun _ => by simp
        exact (broadcast_entries_fails error failed).of_sameConnections same
    · simp

/-- A heartbeat fails internally or at a peer whose connection is closed. -/
theorem heartbeat_fails (routed : host.session.Routed router localScreen)
    {detected : Option (List DetectedScreen)} :
    (host.heartbeat primitives config closed detected stored).Fails fun error =>
      error.Internal ∨ OfClosed closed host.peers error := by
  refine Traced.Fails.bind_of_ok (refreshScreens_fails routed) fun _ later returned =>
    .bind (fun error failed => Or.inr ?_) fun _ => .bind (by simp) fun _ => by simp
  have same : SameConnections host.peers later.peers := by
    rcases refreshScreens_returns returned with ⟨rfl, _⟩ | ⟨_, _, _, _, _, refreshed⟩
    · exact .refl _
    · exact refreshed.sameConnections
  exact (broadcast_entries_fails error failed).of_sameConnections
    (same.trans (sameConnections_beat later.peers))

theorem finish_fails : host.finish.Fails RuntimeError.Internal := by
  refine .bind (by simp) fun _ => .bind saveInventory_fails fun _ => .bind ?_ fun _ =>
    .bind (by simp) fun _ => by simp
  rw [Traced.fails_lift, Outcome.fails_mapErr]
  exact Outcome.fails_of_forall fun _ => trivial

/-- A stop fails internally or in releasing the screen under the cursor. -/
theorem stop_fails (synced : host.session.Synced router localScreen) :
    (host.stop closed).Fails (Blames closed host.topology host.peers (fun _ => False)
      (host.session.Releases .stopRequested)) := by
  unfold stop
  split_ifs
  · have internal : ((host.session.handle .stopRequested).mapErr RuntimeError.other).Fails
        RuntimeError.Internal := mapErr_other_fails
    refine Traced.Fails.bind_of_ok (fun error failed => .internal (internal error failed))
      fun _ ⟨effects, session⟩ handled => .bind (carryOut_fails ?_)
        fun _ error failed => .internal (finish_fails error failed)
    simp only [Traced.returns_lift, Outcome.mapErr_eq_ok] at handled
    exact synced.releaseInjected_within (Outcome.ok.inj handled.1)
  · exact fun error failed => .internal (finish_fails error failed)

/-- What the accept branch takes over once the setup of a peer is complete. -/
def Arranges (primitives : Primitives) (config : HostConfig) (host : Host) (files : TopologyFiles)
    (trustFile : TrustFile) (stored : StoredLayout) (incoming : Incoming) (later : Host)
    (topology : ScreenTopology) : Prop :=
  ∃ prepared middle,
    (host.setUpPeer primitives config trustFile incoming).outcome = .ok (some prepared, middle) ∧
    let inventory := mergeRemoteInventory middle.inventory prepared.peer.summary prepared.screens
    (({ middle with inventory } : Host).arrange
      { files with inventory := .inventory inventory } stored).outcome = .ok (topology, later)

/-- Setting a peer up and arranging its screens leaves the session alone. -/
theorem Arranges.session {files : TopologyFiles} {trustFile : TrustFile} {incoming : Incoming}
    {later : Host}
    (arranges : host.Arranges primitives config files trustFile stored incoming later topology) :
    later.session = host.session := by
  obtain ⟨_, middle, setUp, arranged⟩ := arranges
  have sameMiddle := (arrange_returns ⟨rfl, arranged⟩).2.1
  rw [sameMiddle]
  exact (setUpPeer_sameService setUp).session

theorem arrange_fails {files : TopologyFiles} :
    (host.arrange files stored).Fails RuntimeError.Internal := by
  unfold arrange
  split_ifs
  · simp [RuntimeError.Internal]
  · cases host.direction with
    | none =>
        refine .bind ?_ fun _ => by simp
        rw [Traced.fails_lift, Outcome.fails_mapErr]
        exact Outcome.fails_of_forall fun _ => trivial
    | some direction =>
        exact .bind mapErr_other_fails fun _ => .bind mapErr_other_fails fun _ => .bind (by simp)
          fun _ => .bind mapErr_other_fails fun _ => by simp

/-- An accepted connection fails internally or in releasing the screen under the cursor. -/
theorem accepted_fails (routed : host.session.Routed router localScreen) {files : TopologyFiles}
    {trustFile : TrustFile} {incoming : Incoming} :
    (host.accepted primitives config closed files trustFile stored incoming).Fails fun error =>
      error.Internal ∨ ∃ later topology,
        host.Arranges primitives config files trustFile stored incoming later topology ∧
          later.InstallBlames closed topology error := by
  have internal {α : Type} {call : Outcome RuntimeError α}
      (fails : call.Fails RuntimeError.Internal) :
      call.Fails fun error => error.Internal ∨ ∃ later topology,
        host.Arranges primitives config files trustFile stored incoming later topology ∧
          later.InstallBlames closed topology error :=
    fun error failed => Or.inl (fails error failed)
  refine Traced.Fails.bind_of_ok (internal setUpPeer_fails) fun _ ⟨prepared, middle⟩ setUp => ?_
  cases prepared with
  | none => simp
  | some prepared =>
      refine .bind (internal saveInventory_fails) fun _ => Traced.Fails.bind_of_ok
        (internal arrange_fails) fun _ ⟨topology, later⟩ arranged => ?_
      have arranges : host.Arranges primitives config files trustFile stored incoming
          later topology :=
        ⟨prepared, middle, setUp.2, arranged.2⟩
      refine .bind (fun error failed => Or.inr ?_) fun _ => .bind ?_ fun _ =>
          .bind (by simp) fun _ =>
        .bind (internal announceTopology_fails) fun _ =>
            .bind (internal mapErr_other_fails) fun _ =>
          .bind (by simp) fun _ => .bind (by simp) fun _ => by simp
      · exact ⟨later, topology, arranges, install_fails (arranges.session ▸ routed) error failed⟩
      · exact .bind (by simp) fun _ => .bind (by simp) fun _ => .bind (by simp) fun _ => by simp

/-- The session of the loop is in step with its topology. -/
def Oriented (host : Host) : Prop :=
  ∃ localScreen, host.session.Oriented host.topology localScreen

theorem Oriented.follows {next : Host} (oriented : host.Oriented) (follows : host.Follows next) :
    next.Oriented := by
  obtain ⟨localScreen, oriented⟩ := oriented
  refine ⟨localScreen, ?_⟩
  cases follows with
  | same session topology =>
      rw [session, topology]
      exact oriented
  | handled occurred effects handled topology =>
      rw [topology]
      refine oriented.handle ?_ handled
      cases occurred with
      | input source event => exact Or.inl ⟨event, rfl⟩
      | motion source motion => exact Or.inr ⟨motion, rfl⟩
  | replaced effects replaced =>
      obtain ⟨_, synced, _⟩ := oriented
      exact synced.replaceTopology replaced

theorem start_oriented {direction : Option ScreenDirection} {state : TopologyState}
    {trust : TrustDatabase} {screens : List DetectedScreen} {x y : Int}
    (starts : start primitives config direction state trust screens x y = .ok host) :
    host.Oriented := by
  simp only [start, Outcome.bind_eq_ok, Outcome.pure_eq, Outcome.ok.injEq] at starts
  obtain ⟨_, _, _, _, _, _, _, built, rfl⟩ := starts
  exact ⟨_, DesktopSession.oriented_hostTopology built⟩

end Host

namespace World

variable {primitives : Primitives} {config : HostConfig} {world after : World}
  {host last next : Host} {outputs : List HostOutput} {turn : LoopTurn} {error : RuntimeError}

/-- A step that goes on keeps the session in step, whatever comes in. -/
theorem step_follows {input : WorldInput}
    (stepped : world.step primitives config input = .ok (outputs, after))
    (resumed : after.host = .running next) :
    ∃ host, world.host = .running host ∧ host.Follows next := by
  cases input with
  | neighbour neighbour =>
      exact ⟨next, neighbourStep_host (step_neighbour stepped).1 ▸ resumed, .same rfl rfl⟩
  | turn turn =>
      obtain ⟨host, running, turned⟩ := step_turn stepped
      refine ⟨host, running, ?_⟩
      by_cases accepts : ∃ incoming stored, turn = .accept incoming stored
      · obtain ⟨incoming, stored, rfl⟩ := accepts
        obtain ⟨returned, _⟩ := turn_accept turned resumed
        rcases Host.accepted_returns returned with ⟨same, _⟩ |
          ⟨_, _, _, _, _, _, _, _, _, _, same, _, _, admitted, _⟩
        · exact .same same.session same.topology
        · obtain ⟨effects, replaced⟩ := admitted.replaced
          exact .replaced effects (same.session ▸ replaced)
      · obtain ⟨_, _, kept, _⟩ := turn_kept
          (fun incoming stored same => accepts ⟨incoming, stored, same⟩) turned resumed
        exact kept.follows

/-- The session of a running loop is in step with its topology. -/
def InStep (world : World) : Prop := ∀ host, world.host = .running host → host.Oriented

theorem InStep.step {input : WorldInput} (inStep : InStep world)
    (stepped : world.step primitives config input = .ok (outputs, after)) : InStep after := by
  intro next resumed
  obtain ⟨host, running, follows⟩ := step_follows stepped resumed
  exact (inStep host running).follows follows

/-! ## Whom the error of a turn is about -/

/-- A turn sends to a screen or releases it, looking its device up in a topology and a peer
table. -/
inductive Reaches (primitives : Primitives) (config : HostConfig) (world : World) (host : Host) :
    LoopTurn → ScreenTopology → Peers → ScreenId → Prop where
  | capture {occurred : CapturedEvent} {screenId : ScreenId}
      (reached : host.session.Sends occurred.sessionEvent screenId ∨
        host.session.Releases occurred.sessionEvent screenId) :
      Reaches primitives config world host (.capture (.ok occurred)) host.topology
          host.peers screenId
  | accept {incoming : Incoming} {stored : StoredLayout} {later : Host} {topology : ScreenTopology}
      {screenId : ScreenId}
      (arranges : host.Arranges primitives config world.files world.trustFile stored incoming later
        topology)
      (leaves : later.session.Leaves topology screenId) :
      Reaches primitives config world host (.accept incoming stored) topology later.peers screenId
  | notice {device : TopologyDeviceId} {connection : Connection} {notices : List PeerTask}
      {layout : ScreenLayout} {topology : ScreenTopology} {screenId : ScreenId}
      (queued : world.notices = (device, connection) :: notices)
      (current : ((host.peers.lookup device).any fun peer =>
        peer.connection.remoteAddress = connection.remoteAddress) = true)
      (resolved : layout.resolve (host.inventory.markOffline device) = .ok topology)
      (leaves : host.session.Leaves topology screenId) :
      Reaches primitives config world host (.takeNotice (.ok layout)) topology
        (host.peers.erase device) screenId
  | report {device : TopologyDeviceId} {connection : Connection} {screens : ReportedScreens}
      {reports : List (PeerTask × ReportedScreens)} {peer : HostPeer} {layout : ScreenLayout}
      {topology : ScreenTopology} {screenId : ScreenId}
      (queued : world.reports = ((device, connection), screens) :: reports)
      (present : host.peers.lookup device = some peer)
      (current : peer.connection.remoteAddress = connection.remoteAddress)
      (resolved : layout.resolve (mergeRemoteInventory host.inventory peer.summary screens) =
        .ok topology)
      (leaves : host.session.Leaves topology screenId) :
      Reaches primitives config world host (.takeReport (.ok layout)) topology host.peers screenId
  | forget {deviceId : DeviceId} {requests : List DeviceId} {layout : ScreenLayout}
      {topology : ScreenTopology} {screenId : ScreenId}
      (queued : world.forgetRequests = deviceId :: requests)
      (resolved : layout.resolve (host.inventory.markOffline deviceId.topologyId) = .ok topology)
      (leaves : host.session.Leaves topology screenId) :
      Reaches primitives config world host (.takeForget (.ok layout)) topology
        (host.peers.erase deviceId.topologyId) screenId
  | topology {stored : StoredLayout} {topology : ScreenTopology} {screenId : ScreenId}
      (published : world.published = some topology)
      (leaves : host.session.Leaves topology screenId) :
      Reaches primitives config world host (.takeTopology stored) topology host.peers screenId
  | stop {screenId : ScreenId} (releases : host.session.Releases .stopRequested screenId) :
      Reaches primitives config world host .stop host.topology host.peers screenId

/-- An error of a turn: internal, a failed write to a peer whose connection is closed, or an event
for a screen whose device is not connected. -/
inductive TurnBlames (primitives : Primitives) (config : HostConfig) (world : World) (host : Host)
    (turn : LoopTurn) (error : RuntimeError) : Prop where
  | internal (internal : error.Internal)
  | cut {topology : ScreenTopology} {peers : Peers} {screenId : ScreenId}
      {device : TopologyDeviceId}
      (reaches : Reaches primitives config world host turn topology peers screenId)
      (cut : Cut world.closed topology peers screenId device)
      (names : error = .streamWrite device ∨ error = .datagramSend device)
  | beat {refreshed : Option (List DetectedScreen)} {stored : StoredLayout}
      (beats : turn = .heartbeat refreshed stored)
      (ofClosed : OfClosed world.closed host.peers error)
  | absent {occurred : CapturedEvent} {screenId : ScreenId} {node : ScreenNode}
      (captures : turn = .capture (.ok occurred))
      (sends : host.session.Sends occurred.sessionEvent screenId)
      (found : host.topology.find screenId = some node) (absent : node.deviceId ∉ host.peers)
      (names : error = .notConnected node.deviceId)

/-- When nothing is sent, an error is internal or about a screen that is released. -/
theorem TurnBlames.of_released {topology : ScreenTopology} {peers : Peers}
    {Released : ScreenId → Prop}
    (reaches : ∀ screenId, Released screenId →
      Reaches primitives config world host turn topology peers screenId)
    (blames : Blames world.closed topology peers (fun _ => False) Released error) :
    TurnBlames primitives config world host turn error := by
  cases blames with
  | internal internal => exact .internal internal
  | write reached cut => exact .cut (reaches _ (reached.resolve_left id)) cut (Or.inl rfl)
  | datagram sent => exact sent.elim
  | absent sent => exact sent.elim

theorem TurnBlames.of_refresh {later : Host} {stored : StoredLayout}
    (reaches : ∀ layout topology screenId, stored = .ok layout →
      layout.resolve later.inventory = .ok topology → later.session.Leaves topology screenId →
        Reaches primitives config world host turn topology later.peers screenId)
    (blames : later.RefreshBlames world.closed stored error) :
    TurnBlames primitives config world host turn error := by
  rcases blames with internal | ⟨layout, topology, loaded, resolved, blames⟩
  · exact .internal internal
  · exact .of_released (fun screenId leaves => reaches layout topology screenId loaded
      resolved leaves) blames

theorem settle_ended {queue : World} {entered : Host} {resume : Host → HostPhase}
    {branch : Traced HostOutput RuntimeError Host}
    (goesOn : ∀ next, resume next ≠ .ended last error)
    (settled : queue.settle entered resume branch = (outputs, after))
    (ended : after.host = .ended last error) : entered = last ∧ branch.outcome = .err error := by
  obtain ⟨_, rfl⟩ := Prod.mk.inj settled
  cases result : branch.outcome with
  | ok later =>
      simp only [result, afterBranch] at ended
      exact (goesOn later ended).elim
  | err failure =>
      simp only [result, afterBranch, HostPhase.ended.injEq] at ended
      exact ⟨ended.1, congrArg Outcome.err ended.2⟩
  | panic message => simp [result, afterBranch] at ended

/-- A turn ends the loop only with an error that is internal or about a peer that it reaches. -/
theorem turn_ended (oriented : host.Oriented)
    (turned : world.turn primitives config host turn = .ok (outputs, after))
    (ended : after.host = .ended last error) :
    host = last ∧ TurnBlames primitives config world host turn error := by
  obtain ⟨localScreen, router, synced, _⟩ := oriented
  have routed := synced.toRouted
  rcases turn_cases turned with ⟨rfl, settled⟩ | ⟨queue, branch, turns, settled⟩
  · obtain ⟨same, failed⟩ := settle_ended (by simp) settled ended
    exact ⟨same, .of_released (fun _ releases => .stop releases)
      (Host.stop_fails synced error failed)⟩
  obtain ⟨same, failed⟩ := settle_ended (by simp) settled ended
  refine ⟨same, ?_⟩
  cases turns with
  | accept =>
      rcases Host.accepted_fails routed error failed with internal | ⟨later, _, arranges, blames⟩
      · exact .internal internal
      · exact .of_released (fun _ leaves => .accept arranges leaves) blames
  | capture =>
      rcases Host.captured_fails routed error failed with internal | ⟨occurred, rfl, blames⟩
      · exact .internal internal
      · cases blames with
        | internal internal => exact .internal internal
        | write reached cut => exact .cut (.capture reached) cut (Or.inl rfl)
        | datagram sent cut => exact .cut (.capture (Or.inl sent)) cut (Or.inr rfl)
        | absent sent found absent => exact .absent rfl sent found absent rfl
  | takeNotice queued =>
      obtain ⟨current, blames⟩ := Host.disconnected_fails routed error failed
      refine .of_refresh ?_ blames
      rintro layout topology screenId rfl resolved leaves
      exact .notice queued current resolved leaves
  | takeReport queued =>
      obtain ⟨peer, present, current, blames⟩ := Host.inventoryReported_fails routed error failed
      refine .of_refresh ?_ blames
      rintro layout topology screenId rfl resolved leaves
      exact .report queued present current resolved leaves
  | takeForget queued =>
      refine .of_refresh ?_ (Host.forgotten_fails routed error failed)
      rintro layout topology screenId rfl resolved leaves
      exact .forget queued resolved leaves
  | heartbeat =>
      rcases Host.heartbeat_fails routed error failed with internal | ofClosed
      · exact .internal internal
      · exact .beat rfl ofClosed
  | takeTopology published =>
      exact .of_released (fun _ leaves => .topology published leaves)
        (Host.topologyUpdated_fails routed error failed)

/-- A step that ends the loop is a turn, with such an error. -/
theorem InStep.ended {input : WorldInput} (inStep : InStep world)
    (stepped : world.step primitives config input = .ok (outputs, after))
    (running : world.host = .running host) (ended : after.host = .ended last error) :
    ∃ turn, input = .turn turn ∧ TurnBlames primitives config world host turn error := by
  cases input with
  | neighbour neighbour =>
      rw [neighbourStep_host (step_neighbour stepped).1, running] at ended
      cases ended
  | turn turn =>
      obtain ⟨other, phase, turned⟩ := step_turn stepped
      obtain rfl := HostPhase.running.inj (running.symm.trans phase)
      exact ⟨turn, rfl, (turn_ended (inStep host running) turned ended).2⟩

end World
end Rflow
