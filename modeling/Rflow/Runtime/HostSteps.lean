import Rflow.Runtime.PairingSteps
import Rflow.Runtime.World

/-!
# What one turn of the loop does

For each branch of the loop, everything that is true of the state and the outputs when the branch
returns to the loop.
-/

namespace Rflow

open Foundation

/-! ## Outputs and peers -/

/-- An output of the setup of a peer. -/
def HostOutput.OfSetup : HostOutput → Prop
  | .inventoryFile _ | .layoutFile _ | .spawnTasks .. => False
  | _ => True

/-- An output of an effect of the session, or a frame for a peer. -/
def HostOutput.OfEffect : HostOutput → Prop
  | .emit .. | .emitMotion .. | .setCursorPosition .. | .write .. | .sendDatagram ..
  | .notify (.controlChanged _) => True
  | _ => False

theorem HostOutput.OfEffect.passing (output : HostOutput) (effect : output.OfEffect) :
    output.Passing := by
  cases output <;> trivial

/-- Two tables that list the same peers on the same connections. -/
def SameConnections (peers next : Peers) : Prop :=
  ∀ device, (next.lookup device).map (fun peer => (peer.summary, peer.connection)) =
    (peers.lookup device).map (fun peer => (peer.summary, peer.connection))

namespace SameConnections

variable {peers middle next : Peers} {device : TopologyDeviceId} {peer : HostPeer}

theorem refl (peers : Peers) : SameConnections peers peers := fun _ => rfl

theorem trans (first : SameConnections peers middle) (second : SameConnections middle next) :
    SameConnections peers next := fun device => (second device).trans (first device)

/-- Every peer of the later table is one of the earlier table. -/
theorem back (same : SameConnections peers next) (present : next.lookup device = some peer) :
    ∃ old, peers.lookup device = some old ∧ old.summary = peer.summary ∧
      old.connection = peer.connection := by
  have equal := same device
  rw [present, Option.map_some, eq_comm, Option.map_eq_some_iff] at equal
  obtain ⟨old, found, agree⟩ := equal
  obtain ⟨summary, connection⟩ := Prod.mk.inj agree
  exact ⟨old, found, summary, connection⟩

theorem mem_iff (same : SameConnections peers next) : device ∈ next ↔ device ∈ peers := by
  rw [← AList.lookup_isSome, ← AList.lookup_isSome, ← Option.isSome_map, same device,
    Option.isSome_map]

end SameConnections

/-- Counting a sequence number of a peer keeps the connections. -/
theorem sameConnections_insert {peers : Peers} {device : TopologyDeviceId} {peer new : HostPeer}
    (present : peers.lookup device = some peer) (summary : new.summary = peer.summary)
    (connection : new.connection = peer.connection) :
    SameConnections peers (peers.insert device new) := by
  intro other
  by_cases same : other = device
  · rw [same, AList.lookup_insert, present, Option.map_some, Option.map_some, summary, connection]
  · rw [AList.lookup_insert_ne same]

@[simp]
theorem Peers.lookup_update (change : HostPeer → HostPeer) (peers : Peers)
    (device : TopologyDeviceId) :
    (peers.update change).lookup device = (peers.lookup device).map change := by
  have mapped : (peers.update change).entries =
      peers.entries.map (Sigma.map id fun _ => change : PeerEntry → PeerEntry) := rfl
  rw [AList.lookup, mapped, List.dlookup_map₂]
  rfl

theorem sameConnections_beat (peers : Peers) :
    SameConnections peers (peers.update HostPeer.beat) := by
  intro device
  rw [Peers.lookup_update, Option.map_map]
  rfl

section Execution

variable {closed : Finset Nat} {topology : ScreenTopology} {ready : Bool}
  {sources : LocalInputSources} {peers next : Peers} {outputs : List HostOutput}

@[simp]
theorem writeReliable_eq_ok {device : TopologyDeviceId} {peer : HostPeer} {event : ReliableEvent} :
    writeReliable closed device peer event = .ok outputs ↔
      peer.connection.id ∉ closed ∧ outputs = [.write device event] := by
  unfold writeReliable
  split_ifs with isClosed <;> simp [isClosed, eq_comm]

@[simp]
theorem sendDatagram_eq_ok {device : TopologyDeviceId} {peer : HostPeer} {motion : Motion} :
    sendDatagram closed device peer motion = .ok outputs ↔
      peer.connection.id ∉ closed ∧ outputs = [.sendDatagram device (.ofMotion motion)] := by
  unfold sendDatagram
  split_ifs with isClosed <;> simp [isClosed, eq_comm]

/-- Sending an input counts a sequence number and writes one frame. -/
theorem sendInput_returns {device : TopologyDeviceId} {peer : HostPeer} {event : InputEvent}
    (present : peers.lookup device = some peer)
    (sent : sendInput closed peers device peer event = .ok (outputs, next)) :
    SameConnections peers next ∧ ∀ output ∈ outputs, output.OfEffect := by
  simp only [sendInput, Outcome.bind_eq_ok, writeReliable_eq_ok, Outcome.pure_eq, Outcome.ok.injEq,
    Prod.mk.injEq] at sent
  obtain ⟨_, _, _, ⟨_, rfl⟩, rfl, rfl⟩ := sent
  refine ⟨sameConnections_insert present rfl rfl, ?_⟩
  simp [HostOutput.OfEffect]

theorem executeHostEffect_returns {effect : SessionEffect}
    (executed : executeHostEffect closed topology ready sources peers
        effect = .ok (outputs, next)) :
    SameConnections peers next ∧ ∀ output ∈ outputs, output.OfEffect := by
  cases effect with
  | sendScreen screenId event =>
      simp only [executeHostEffect, Outcome.bind_eq_ok] at executed
      obtain ⟨⟨device, peer⟩, found, sent⟩ := executed
      obtain ⟨_, _, _, present⟩ := peerForScreen_eq_ok.mp found
      exact sendInput_returns present sent
  | sendRemote event =>
      simp only [executeHostEffect, Outcome.bind_eq_ok] at executed
      obtain ⟨⟨device, peer⟩, found, sent⟩ := executed
      exact sendInput_returns (onlyPeer_eq_ok found) sent
  | releaseScreen screenId =>
      simp only [executeHostEffect] at executed
      split at executed
      · simp only [Outcome.bind_eq_ok, writeReliable_eq_ok, Outcome.pure_eq, Outcome.ok.injEq,
          Prod.mk.injEq] at executed
        obtain ⟨_, ⟨_, rfl⟩, rfl, rfl⟩ := executed
        exact ⟨.refl _, by simp [HostOutput.OfEffect]⟩
      · obtain ⟨rfl, rfl⟩ := Prod.mk.inj (Outcome.ok.inj executed)
        exact ⟨.refl _, by simp⟩
  | releaseRemote =>
      simp only [executeHostEffect] at executed
      split at executed
      · simp only [Outcome.bind_eq_ok, writeReliable_eq_ok, Outcome.pure_eq, Outcome.ok.injEq,
          Prod.mk.injEq] at executed
        obtain ⟨_, _, _, ⟨_, rfl⟩, rfl, rfl⟩ := executed
        exact ⟨.refl _, by simp [HostOutput.OfEffect]⟩
      · obtain ⟨rfl, rfl⟩ := Prod.mk.inj (Outcome.ok.inj executed)
        exact ⟨.refl _, by simp⟩
  | controlChanged control =>
      obtain ⟨rfl, rfl⟩ := Prod.mk.inj (Outcome.ok.inj executed)
      exact ⟨.refl _, by simp [HostOutput.OfEffect]⟩
  | _ =>
      simp only [executeHostEffect, Outcome.bind_eq_ok, writeReliable_eq_ok, sendDatagram_eq_ok,
        Outcome.pure_eq, Outcome.ok.injEq, Prod.mk.injEq] at executed
      first
        | obtain ⟨_, _, rfl, rfl⟩ := executed
          exact ⟨.refl _, by simp [HostOutput.OfEffect]⟩
        | obtain ⟨_, _, _, ⟨_, rfl⟩, rfl, rfl⟩ := executed
          exact ⟨.refl _, by simp [HostOutput.OfEffect]⟩

theorem executeHostEffectsMulti_effects {effects : List SessionEffect}
    (executed : executeHostEffectsMulti closed topology ready sources peers effects =
      .ok (outputs, next)) :
    SameConnections peers next ∧ ∀ output ∈ outputs, output.OfEffect := by
  induction effects generalizing peers outputs with
  | nil =>
      obtain ⟨rfl, rfl⟩ : [] = outputs ∧ peers = next := by
        simpa [executeHostEffectsMulti] using executed
      exact ⟨.refl _, by simp⟩
  | cons effect effects induction =>
      obtain ⟨first, middle, rest, stepped, remaining, rfl⟩ := Machine.run_cons_eq_ok.mp executed
      obtain ⟨sameFirst, effectsFirst⟩ := executeHostEffect_returns stepped
      obtain ⟨sameRest, effectsRest⟩ := induction remaining
      refine ⟨sameFirst.trans sameRest, fun output member => ?_⟩
      rcases List.mem_append.mp member with early | late
      · exact effectsFirst output early
      · exact effectsRest output late

/-- Carrying out effects keeps the peers on their connections. -/
theorem executeHostEffectsMulti_returns {effects : List SessionEffect}
    (executed : executeHostEffectsMulti closed topology ready sources peers effects =
      .ok (outputs, next)) :
    SameConnections peers next ∧ ∀ output ∈ outputs, output.Passing := by
  obtain ⟨same, ofEffects⟩ := executeHostEffectsMulti_effects executed
  exact ⟨same, fun output member => (ofEffects output member).passing⟩

end Execution

namespace Host

/-- The session is as it was, has handled a captured event, or routes over a new topology. -/
inductive Follows (host next : Host) : Prop where
  | same (session : next.session = host.session) (topology : next.topology = host.topology)
  | handled (occurred : CapturedEvent) (effects : List SessionEffect)
      (session : host.session.handle occurred.sessionEvent = .ok (effects, next.session))
      (topology : next.topology = host.topology)
  | replaced (effects : List SessionEffect)
      (session : host.session.replaceTopology next.topology = .ok (effects, next.session))

/-- What a turn without a new peer keeps when it returns to the loop. -/
structure Kept (host next : Host) (outputs : List HostOutput) : Prop where
  peers : ∀ {device peer}, next.peers.lookup device = some peer →
    ∃ old, host.peers.lookup device = some old ∧ old.summary = peer.summary ∧
      old.connection = peer.connection
  follows : Follows host next
  capturing : next.capturing = host.capturing
  trust : next.trust = host.trust
  noTasks : ∀ device connection, .spawnTasks device connection ∉ outputs
  noTrustFile : ∀ file, .trustFile file ∉ outputs
  inventoryFile : ∀ inventory, .inventoryFile inventory ∈ outputs → inventory = next.inventory

variable {primitives : Primitives} {config : HostConfig} {closed : Finset Nat} {host next : Host}
  {outputs : List HostOutput} {stored : StoredLayout}

/-- A turn that only leaves passing outputs. -/
theorem Kept.of_passing (same : SameConnections host.peers next.peers) (follows : Follows host next)
    (capturing : next.capturing = host.capturing) (trust : next.trust = host.trust)
    (passing : ∀ output ∈ outputs, output.Passing) : Kept host next outputs where
  peers := same.back
  follows := follows
  capturing := capturing
  trust := trust
  noTasks _ _ member := passing _ member
  noTrustFile _ member := passing _ member
  inventoryFile _ member := (passing _ member).elim

/-- More passing outputs change nothing. -/
theorem Kept.append (kept : Kept host next outputs) {more : List HostOutput}
    (passing : ∀ output ∈ more, output.Passing) : Kept host next (outputs ++ more) where
  peers := kept.peers
  follows := kept.follows
  capturing := kept.capturing
  trust := kept.trust
  noTasks device connection member :=
    (List.mem_append.mp member).elim (kept.noTasks device connection) (passing _)
  noTrustFile file member := (List.mem_append.mp member).elim (kept.noTrustFile file) (passing _)
  inventoryFile inventory member :=
    (List.mem_append.mp member).elim (kept.inventoryFile inventory) fun late =>
    (passing _ late).elim

theorem carryOut_returns {current : Option Nat} {asked : List SessionEffect × DesktopSession}
    (returned : (host.carryOut closed current asked).Returns outputs next) :
    executeHostEffectsMulti closed host.topology host.capturing
        { current, held := host.heldSources } host.peers asked.1 = .ok (outputs, next.peers) ∧
      next = { host with session := asked.2, peers := next.peers } := by
  simp only [carryOut, Traced.returns_bind, Traced.returns_emit, Traced.returns_pure] at returned
  obtain ⟨_, peers, _, executed, ⟨rfl, rfl⟩, rfl⟩ := returned
  exact ⟨by simpa using executed, rfl⟩

theorem install_returns {topology : ScreenTopology}
    (returned : (host.install closed topology).Returns outputs next) :
    ∃ effects, host.session.replaceTopology topology = .ok (effects, next.session) ∧
      executeHostEffectsMulti closed topology host.capturing
        { current := none, held := host.heldSources } host.peers effects =
          .ok (outputs, next.peers) ∧
      next = { host with topology, session := next.session, peers := next.peers } := by
  simp only [install, Traced.returns_bind, Traced.returns_lift, Outcome.mapErr_eq_ok] at returned
  obtain ⟨_, asked, rest, ⟨replaced, rfl⟩, carried, rfl⟩ := returned
  obtain ⟨executed, sameNext⟩ := carryOut_returns carried
  have session : next.session = asked.2 := by rw [sameNext]
  refine ⟨asked.1, ?_, executed, ?_⟩
  · rw [replaced, session]
  · rw [session]
    exact sameNext

@[simp]
theorem saveInventory_returns {inventory : ScreenInventory} {value : PUnit} :
    (saveInventory inventory).Returns outputs value ↔
      inventory.validate = .ok () ∧ outputs = [.inventoryFile inventory] := by
  simp only [saveInventory, Traced.returns_bind, Traced.returns_lift, Outcome.mapErr_eq_ok,
    Traced.returns_tell]
  constructor
  · rintro ⟨_, ⟨⟩, _, ⟨valid, rfl⟩, rfl, rfl⟩
    exact ⟨valid, rfl⟩
  · rintro ⟨valid, rfl⟩
    exact ⟨[], (), _, ⟨valid, rfl⟩, rfl, rfl⟩

/-- What a refresh leaves: the resolved topology is installed and the inventory is saved. -/
structure Refreshed (closed : Finset Nat) (stored : StoredLayout) (host next : Host)
    (outputs : List HostOutput) : Prop where
  resolved : ∃ layout, stored = .ok layout ∧ next.layout = layout ∧
    layout.resolve host.inventory = .ok next.topology
  replaced : ∃ effects, host.session.replaceTopology next.topology = .ok (effects, next.session) ∧
    ∃ passing, executeHostEffectsMulti closed next.topology host.capturing
        { current := none, held := host.heldSources } host.peers effects =
          .ok (passing, next.peers) ∧ outputs = .inventoryFile host.inventory :: passing
  valid : host.inventory.validate = .ok ()
  rest : next = { host with
    layout := next.layout
    topology := next.topology
    session := next.session
    peers := next.peers }

theorem refresh_returns (returned : (host.refresh closed stored).Returns outputs next) :
    Refreshed closed stored host next outputs := by
  simp only [refresh, Traced.returns_bind, saveInventory_returns, Traced.returns_lift,
    Outcome.mapErr_eq_ok] at returned
  obtain ⟨_, _, _, ⟨valid, rfl⟩, ⟨_, layout, _, ⟨loaded, rfl⟩, ⟨_, topology, passing,
    ⟨resolved, rfl⟩, installed, rfl⟩, rfl⟩, rfl⟩ := returned
  obtain ⟨effects, replaced, executed, sameNext⟩ := install_returns installed
  have sameTopology : next.topology = topology := by rw [sameNext]
  have sameLayout : next.layout = layout := by rw [sameNext]
  rw [← sameTopology] at resolved replaced executed
  exact
    { resolved := ⟨layout, loaded, sameLayout, resolved⟩
      replaced := ⟨effects, replaced, _, executed, rfl⟩
      valid
      rest := by
        rw [sameTopology, sameLayout]
        exact sameNext }

namespace Refreshed

variable (refreshed : Refreshed closed stored host next outputs)

include refreshed

theorem inventory : next.inventory = host.inventory := by rw [refreshed.rest]

theorem trust : next.trust = host.trust := by rw [refreshed.rest]

theorem capturing : next.capturing = host.capturing := by rw [refreshed.rest]

theorem sameConnections : SameConnections host.peers next.peers := by
  obtain ⟨_, _, _, executed, _⟩ := refreshed.replaced
  exact (executeHostEffectsMulti_returns executed).1

theorem follows : Follows host next := by
  obtain ⟨effects, replaced, _⟩ := refreshed.replaced
  exact .replaced effects replaced

/-- A refresh saves the inventory and leaves passing outputs otherwise. -/
theorem outputs_eq :
    ∃ passing, outputs = .inventoryFile next.inventory :: passing ∧
      ∀ output ∈ passing, output.Passing := by
  obtain ⟨_, _, passing, executed, sameOutputs⟩ := refreshed.replaced
  rw [refreshed.inventory]
  exact ⟨passing, sameOutputs, (executeHostEffectsMulti_returns executed).2⟩

theorem kept : Kept host next outputs := by
  obtain ⟨passing, rfl, passes⟩ := refreshed.outputs_eq
  have kept : Kept host next [.inventoryFile next.inventory] :=
    { peers := refreshed.sameConnections.back
      follows := refreshed.follows
      capturing := refreshed.capturing
      trust := refreshed.trust
      noTasks := by simp
      noTrustFile := by simp
      inventoryFile := by simp }
  exact kept.append passes

end Refreshed

/-! ## The start -/

section Start

variable {direction : Option ScreenDirection} {state : TopologyState} {trust : TrustDatabase}
  {screens : List DetectedScreen} {x y : Int}

theorem start_fields (starts : start primitives config direction state trust screens x
    y = .ok host) : host.peers = ∅ ∧ host.capturing = false ∧ host.trust = trust := by
  simp only [start, Outcome.bind_eq_ok, Outcome.pure_eq, Outcome.ok.injEq] at starts
  obtain ⟨_, _, _, _, _, _, _, _, rfl⟩ := starts
  exact ⟨rfl, rfl, rfl⟩

theorem start_peers (starts : start primitives config direction state trust screens x
    y = .ok host) : host.peers = ∅ := (start_fields starts).1

theorem start_capturing
    (starts : start primitives config direction state trust screens x y = .ok host) :
    host.capturing = false := (start_fields starts).2.1

theorem start_trust (starts : start primitives config direction state trust screens x
    y = .ok host) : host.trust = trust := (start_fields starts).2.2

end Start

/-! ## The branches without a new peer -/

theorem noteSource_eq (host : Host) (event : CapturedEvent) :
    host.noteSource event = { host with heldSources := (host.noteSource event).heldSources } := by
  unfold noteSource
  split <;> rfl

theorem dropSource_eq (host : Host) (event : CapturedEvent) :
    host.dropSource event = { host with heldSources := (host.dropSource event).heldSources } := by
  unfold dropSource
  split <;> rfl

/-- A captured event changes the session and the sources of held inputs, and counts sent frames. -/
theorem captured_returns {event : Outcome String CapturedEvent}
    (returned : (host.captured closed event).Returns outputs next) :
    ∃ occurred effects, event = .ok occurred ∧
      host.session.handle occurred.sessionEvent = .ok (effects, next.session) ∧
      SameConnections host.peers next.peers ∧ (∀ output ∈ outputs, output.Passing) ∧
      next = { host with
        session := next.session, peers := next.peers, heldSources := next.heldSources } := by
  simp only [captured, Traced.returns_bind, Traced.returns_lift, Outcome.mapErr_eq_ok,
    Traced.returns_pure] at returned
  obtain ⟨_, occurred, _, ⟨happened, rfl⟩, ⟨_, asked, _, ⟨handled, rfl⟩, ⟨_, middle, _, carried,
    ⟨rfl, rfl⟩, rfl⟩, rfl⟩, rfl⟩ := returned
  rw [noteSource_eq] at handled carried
  obtain ⟨executed, sameMiddle⟩ := carryOut_returns carried
  obtain ⟨same, passing⟩ := executeHostEffectsMulti_returns executed
  have session : middle.session = asked.2 := by rw [sameMiddle]
  rw [dropSource_eq]
  refine ⟨occurred, asked.1, happened, ?_, same, by simpa using passing, ?_⟩
  · rw [session]
    exact handled
  · rw [sameMiddle]

/-- A frame that reaches everyone finds no connection closed. -/
theorem broadcast_returns {frame : HostPeer → ReliableEvent} {entries : List PeerEntry}
    (sent : broadcast closed frame entries = .ok outputs) :
    (∀ entry ∈ entries, entry.2.connection.id ∉ closed) ∧ ∀ output ∈ outputs, output.OfEffect := by
  induction entries generalizing outputs with
  | nil =>
      obtain rfl : [] = outputs := Outcome.ok.inj sent
      simp
  | cons entry entries induction =>
      simp only [broadcast, Outcome.bind_eq_ok, writeReliable_eq_ok, Outcome.pure_eq,
        Outcome.ok.injEq] at sent
      obtain ⟨_, ⟨opened, rfl⟩, others, sentOthers, rfl⟩ := sent
      obtain ⟨othersOpened, frames⟩ := induction sentOthers
      refine ⟨List.forall_mem_cons.mpr ⟨opened, othersOpened⟩, ?_⟩
      exact List.forall_mem_cons.mpr ⟨trivial, frames⟩

theorem disconnected_returns {device : TopologyDeviceId} {remote : SocketAddr}
    (returned : (host.disconnected closed device remote stored).Returns outputs next) :
    (((host.peers.lookup device).any fun peer => peer.connection.remoteAddress = remote) = false ∧
        next = host ∧ outputs = []) ∨
      ((host.peers.lookup device).any fun peer => peer.connection.remoteAddress = remote) = true ∧
        ∃ first rest, outputs = first ++ rest ∧ (∀ output ∈ rest, output.Passing) ∧
          Refreshed closed stored { host with
            peers := host.peers.erase device
            inventory := host.inventory.markOffline device } next first := by
  unfold disconnected at returned
  split at returned
  · rename_i current
    simp only [Traced.returns_bind, announceTopology, Traced.returns_tell,
      Traced.returns_pure] at returned
    obtain ⟨first, middle, _, refreshed, ⟨_, _, _, rfl, ⟨_, _, _, rfl, ⟨rfl, rfl⟩, rfl⟩, rfl⟩,
      rfl⟩ :=
      returned
    refine Or.inr ⟨current, first, _, rfl, ?_, refresh_returns refreshed⟩
    simp [HostOutput.Passing]
  · rename_i other
    obtain ⟨rfl, rfl⟩ := Traced.returns_pure.mp returned
    exact Or.inl ⟨Bool.eq_false_iff.mpr other, rfl, rfl⟩

theorem inventoryReported_returns {device : TopologyDeviceId} {remote : SocketAddr}
    {screens : ReportedScreens}
    (returned : (host.inventoryReported closed device remote screens stored).Returns outputs next) :
    (((host.peers.lookup device).any fun peer => peer.connection.remoteAddress = remote) = false ∧
        next = host ∧ outputs = []) ∨
      ∃ peer first rest, host.peers.lookup device = some peer ∧
        peer.connection.remoteAddress = remote ∧
        outputs = first ++ rest ∧ (∀ output ∈ rest, output.Passing) ∧
          Refreshed closed stored { host with
            inventory := mergeRemoteInventory host.inventory peer.summary screens } next first := by
  unfold inventoryReported at returned
  split at returned
  · rename_i peer present
    split at returned
    · rename_i current
      simp only [Traced.returns_bind, announceTopology, Traced.returns_tell,
        Traced.returns_pure] at returned
      obtain ⟨first, middle, _, refreshed, ⟨_, _, _, rfl, ⟨rfl, rfl⟩, rfl⟩, rfl⟩ := returned
      refine Or.inr ⟨peer, first, _, present, current, rfl, ?_, refresh_returns refreshed⟩
      simp [HostOutput.Passing]
    · rename_i other
      obtain ⟨rfl, rfl⟩ := Traced.returns_pure.mp returned
      exact Or.inl ⟨by simpa [present] using other, rfl, rfl⟩
  · rename_i absent
    obtain ⟨rfl, rfl⟩ := Traced.returns_pure.mp returned
    exact Or.inl ⟨by simp [absent], rfl, rfl⟩

/-- Forgetting a device closes its connection, and removes it like a disconnect. -/
theorem forgotten_returns {deviceId : DeviceId}
    (returned : (host.forgotten closed deviceId stored).Returns outputs next) :
    ∃ closing first rest, outputs = closing ++ (first ++ rest) ∧
      (∀ output ∈ closing, ∃ connection, output = .closeConnection connection) ∧
      (∀ output ∈ rest, output.Passing) ∧
      Refreshed closed stored { host with
        peers := host.peers.erase deviceId.topologyId
        inventory := host.inventory.markOffline deviceId.topologyId } next first := by
  simp only [forgotten, Traced.returns_bind, announceTopology, Traced.returns_tell,
    Traced.returns_pure] at returned
  obtain ⟨closing, _, _, closes, ⟨first, middle, _, refreshed, ⟨_, _, _, rfl, ⟨rfl, rfl⟩, rfl⟩,
    rfl⟩, rfl⟩ := returned
  refine ⟨closing, first, _, rfl, ?_, ?_, refresh_returns refreshed⟩
  · rw [closes]
    split <;> simp
  · simp [HostOutput.Passing]

theorem refreshScreens_returns {detected : Option (List DetectedScreen)}
    (returned : (host.refreshScreens primitives config closed detected stored).Returns
        outputs next) :
    (next = host ∧ outputs = []) ∨
      ∃ screens first rest, outputs = first ++ rest ∧ (∀ output ∈ rest, output.Passing) ∧
        Refreshed closed stored { host with
          detectedScreens := screens
          inventory := mergeLocalInventory host.inventory config.deviceName
            (primitives.sha256 config.certificate) screens } next first := by
  unfold refreshScreens at returned
  split at returned
  · obtain ⟨rfl, rfl⟩ := Traced.returns_pure.mp returned
    exact Or.inl ⟨rfl, rfl⟩
  · rename_i screens
    split at returned
    · simp only [Traced.returns_bind, Traced.returns_lift, announceTopology, Traced.returns_tell,
        Traced.returns_pure] at returned
      obtain ⟨first, middle, _, refreshed, ⟨_, sent, _, ⟨reached, rfl⟩, ⟨_, _, _, rfl,
        ⟨_, _, _, rfl, ⟨rfl, rfl⟩, rfl⟩, rfl⟩, rfl⟩, rfl⟩ := returned
      refine Or.inr ⟨screens, first, _, rfl, ?_, refresh_returns refreshed⟩
      have frames := (broadcast_returns reached).2
      intro output member
      simp only [List.nil_append, List.append_nil, List.mem_append, List.mem_singleton] at member
      rcases member with early | rfl
      · exact (frames output early).passing
      · trivial
    · obtain ⟨rfl, rfl⟩ := Traced.returns_pure.mp returned
      exact Or.inl ⟨rfl, rfl⟩

/-- A heartbeat takes changed screens over, and returns only when every connection is open. -/
theorem heartbeat_returns {detected : Option (List DetectedScreen)}
    (returned : (host.heartbeat primitives config closed detected stored).Returns outputs next) :
    ∃ middle first rest, outputs = first ++ rest ∧ (∀ output ∈ rest, output.Passing) ∧
      (host.refreshScreens primitives config closed detected stored).Returns first middle ∧
      next = { middle with peers := middle.peers.update HostPeer.beat } := by
  simp only [heartbeat, Traced.returns_bind, Traced.returns_lift, Traced.returns_tell,
    Traced.returns_pure] at returned
  obtain ⟨first, middle, _, refreshed, ⟨_, sent, _, ⟨reached, rfl⟩, ⟨_, _, _, rfl, ⟨rfl, rfl⟩, rfl⟩,
    rfl⟩, rfl⟩ := returned
  refine ⟨middle, first, _, rfl, ?_, refreshed, rfl⟩
  intro output member
  exact ((broadcast_returns reached).2 output (by simpa using member)).passing

theorem topologyUpdated_returns {topology : ScreenTopology}
    (returned : (host.topologyUpdated closed topology stored).Returns outputs next) :
    ∃ layout effects, stored = .ok layout ∧
      host.session.replaceTopology topology = .ok (effects, next.session) ∧
      executeHostEffectsMulti closed topology host.capturing
        { current := none, held := host.heldSources } host.peers effects =
          .ok (outputs, next.peers) ∧
      next = { host with layout, topology, session := next.session, peers := next.peers } := by
  simp only [topologyUpdated, Traced.returns_bind, Traced.returns_lift,
    Outcome.mapErr_eq_ok] at returned
  obtain ⟨_, layout, _, ⟨loaded, rfl⟩, installed, rfl⟩ := returned
  obtain ⟨effects, replaced, executed, sameNext⟩ := install_returns installed
  exact ⟨layout, effects, loaded, replaced, executed, sameNext⟩

/-! ### What these branches keep -/

/-- The session does not depend on peers, inventory and detected screens. -/
theorem Follows.of_eq {other : Host} (follows : Follows other next)
    (session : other.session = host.session) (topology : other.topology = host.topology) :
    Follows host next := by
  cases follows with
  | same sameSession sameTopology =>
      exact .same (sameSession.trans session) (sameTopology.trans topology)
  | handled occurred effects handles sameTopology =>
      exact .handled occurred effects (session ▸ handles) (sameTopology.trans topology)
  | replaced effects replaces => exact .replaced effects (session ▸ replaces)

theorem Follows.to_eq {other : Host} (follows : Follows host other)
    (session : next.session = other.session) (topology : next.topology = other.topology) :
    Follows host next := by
  cases follows with
  | same sameSession sameTopology =>
      exact .same (session.trans sameSession) (topology.trans sameTopology)
  | handled occurred effects handles sameTopology =>
      exact .handled occurred effects (session ▸ handles) (topology.trans sameTopology)
  | replaced effects replaces =>
      exact .replaced effects (by rw [session, topology]; exact replaces)

/-- Fewer peers before a refresh are fewer peers after it. -/
theorem Kept.of_erase {device : TopologyDeviceId} {inventory : ScreenInventory}
    (kept : Kept { host with peers := host.peers.erase device, inventory } next outputs) :
    Kept host next outputs where
  peers := by
    intro other peer present
    obtain ⟨old, found, same⟩ := kept.peers present
    have distinct : other ≠ device := by
      rintro rfl
      rw [AList.lookup_erase] at found
      cases found
    rw [AList.lookup_erase_ne distinct] at found
    exact ⟨old, found, same⟩
  follows := kept.follows.of_eq rfl rfl
  capturing := kept.capturing
  trust := kept.trust
  noTasks := kept.noTasks
  noTrustFile := kept.noTrustFile
  inventoryFile := kept.inventoryFile

theorem captured_kept {event : Outcome String CapturedEvent}
    (returned : (host.captured closed event).Returns outputs next) : Kept host next outputs := by
  obtain ⟨occurred, effects, _, handled, same, passing, sameNext⟩ := captured_returns returned
  exact .of_passing same (.handled occurred effects handled (by rw [sameNext])) (by rw [sameNext])
    (by rw [sameNext]) passing

theorem Kept.refl (host : Host) : Kept host host [] :=
  .of_passing (.refl _) (.same rfl rfl) rfl rfl (by simp)

/-- What a turn keeps does not depend on inventory and detected screens. -/
theorem Kept.of_eq {other : Host} (kept : Kept other next outputs)
    (peers : other.peers = host.peers)
    (session : other.session = host.session) (topology : other.topology = host.topology)
    (capturing : other.capturing = host.capturing) (trust : other.trust = host.trust) :
    Kept host next outputs where
  peers := peers ▸ kept.peers
  follows := kept.follows.of_eq session topology
  capturing := kept.capturing.trans capturing
  trust := kept.trust.trans trust
  noTasks := kept.noTasks
  noTrustFile := kept.noTrustFile
  inventoryFile := kept.inventoryFile

theorem disconnected_kept {device : TopologyDeviceId} {remote : SocketAddr}
    (returned : (host.disconnected closed device remote stored).Returns outputs next) :
    Kept host next outputs := by
  obtain ⟨_, rfl, rfl⟩ | ⟨_, first, rest, rfl, passing, refreshed⟩ := disconnected_returns returned
  · exact .refl _
  · exact refreshed.kept.of_erase.append passing

theorem inventoryReported_kept {device : TopologyDeviceId} {remote : SocketAddr}
    {screens : ReportedScreens}
    (returned : (host.inventoryReported closed device remote screens stored).Returns outputs next) :
    Kept host next outputs := by
  obtain ⟨_, rfl, rfl⟩ | ⟨_, first, rest, _, _, rfl, passing, refreshed⟩ :=
    inventoryReported_returns returned
  · exact .refl _
  · have kept : Kept host next first := refreshed.kept.of_eq rfl rfl rfl rfl rfl
    exact kept.append passing

theorem forgotten_kept {deviceId : DeviceId}
    (returned : (host.forgotten closed deviceId stored).Returns outputs next) :
    Kept host next outputs := by
  obtain ⟨closing, first, rest, rfl, closes, passing, refreshed⟩ := forgotten_returns returned
  have kept : Kept host next (first ++ rest) := refreshed.kept.of_erase.append passing
  have notClosing {output : HostOutput} (other : ∀ connection, output ≠ .closeConnection connection)
      (member : output ∈ closing ++ (first ++ rest)) : output ∈ first ++ rest := by
    refine (List.mem_append.mp member).resolve_left fun early => ?_
    obtain ⟨connection, same⟩ := closes output early
    exact other connection same
  exact
    { peers := kept.peers
      follows := kept.follows
      capturing := kept.capturing
      trust := kept.trust
      noTasks := fun device connection member =>
        kept.noTasks device connection (notClosing (by simp) member)
      noTrustFile := fun file member => kept.noTrustFile file (notClosing (by simp) member)
      inventoryFile := fun inventory member =>
        kept.inventoryFile inventory (notClosing (by simp) member) }

theorem refreshScreens_kept {detected : Option (List DetectedScreen)}
    (returned : (host.refreshScreens primitives config closed detected stored).Returns
        outputs next) :
    Kept host next outputs := by
  obtain ⟨rfl, rfl⟩ | ⟨_, first, rest, rfl, passing, refreshed⟩ := refreshScreens_returns returned
  · exact .refl _
  · have kept : Kept host next first := refreshed.kept.of_eq rfl rfl rfl rfl rfl
    exact kept.append passing

theorem heartbeat_kept {detected : Option (List DetectedScreen)}
    (returned : (host.heartbeat primitives config closed detected stored).Returns outputs next) :
    Kept host next outputs := by
  obtain ⟨middle, first, rest, rfl, passing, refreshed, rfl⟩ := heartbeat_returns returned
  have kept := (refreshScreens_kept refreshed).append passing
  refine ⟨?_, kept.follows.to_eq rfl rfl, kept.capturing, kept.trust, kept.noTasks,
    kept.noTrustFile, kept.inventoryFile⟩
  intro device peer present
  obtain ⟨beaten, found, summary, connection⟩ := (sameConnections_beat middle.peers).back present
  obtain ⟨old, present, oldSummary, oldConnection⟩ := kept.peers found
  exact ⟨old, present, oldSummary.trans summary, oldConnection.trans connection⟩

theorem topologyUpdated_kept {topology : ScreenTopology}
    (returned : (host.topologyUpdated closed topology stored).Returns outputs next) :
    Kept host next outputs := by
  obtain ⟨_, effects, _, replaced, executed, sameNext⟩ := topologyUpdated_returns returned
  obtain ⟨same, passing⟩ := executeHostEffectsMulti_returns executed
  have sameTopology : next.topology = topology := by rw [sameNext]
  exact .of_passing same (.replaced effects (sameTopology ▸ replaced)) (by rw [sameNext])
    (by rw [sameNext]) passing

/-! ## The accept branch -/

/-- The setup of the peer of an incoming connection completes. -/
def SetsUp (primitives : Primitives) (config : HostConfig) (host : Host) (trustFile : TrustFile)
    (incoming : Incoming) : Prop :=
  ∃ prepared next,
    (host.setUpPeer primitives config trustFile incoming).outcome = .ok (some prepared, next)

/-- Two states of the loop with the same peers, session, topology and inventory. -/
structure SameService (host next : Host) : Prop where
  peers : next.peers = host.peers
  session : next.session = host.session
  topology : next.topology = host.topology
  inventory : next.inventory = host.inventory
  capturing : next.capturing = host.capturing

/-- Setting a peer up leaves the service alone. -/
theorem setUpPeer_sameService {trustFile : TrustFile} {incoming : Incoming}
    {prepared : Option PreparedPeer}
    (done : (host.setUpPeer primitives config trustFile incoming).outcome = .ok (prepared, next)) :
    host.SameService next := by
  simp only [setUpPeer, Traced.bind_outcome, Traced.lift_outcome, Outcome.bind_eq_ok] at done
  obtain ⟨attempt, _, ⟨authorized, trust, limiter⟩, _, done⟩ := done
  cases authorized with
  | none =>
      simp only [Traced.bind_outcome, Traced.tell_outcome, Outcome.ok_bind, Traced.pure_outcome,
        Outcome.ok.injEq, Prod.mk.injEq] at done
      obtain ⟨_, rfl⟩ := done
      exact ⟨rfl, rfl, rfl, rfl, rfl⟩
  | some authorized =>
      simp only [Traced.bind_outcome, Outcome.bind_eq_ok, Traced.pure_outcome, Outcome.ok.injEq,
        Prod.mk.injEq] at done
      obtain ⟨_, _, _, rfl⟩ := done
      exact ⟨rfl, rfl, rfl, rfl, rfl⟩

/-- Setting a peer up closes its connection, writes to the trust file or leaves passing outputs. -/
theorem setUpPeer_emits {trustFile : TrustFile} {incoming : Incoming} {Property : HostOutput → Prop}
    (passing : ∀ output, output.Passing → Property output)
    (closing : ∀ connection, Property (.closeConnection connection))
    (writes : ∀ attempt introduction, incoming = .connected attempt →
      Introduces primitives config attempt introduction →
      RequestAccepted primitives attempt host.trust host.limiter introduction →
        RememberWrites primitives attempt { database := host.trust, file := trustFile } Property
          introduction) :
    (host.setUpPeer primitives config trustFile incoming).Emits Property := by
  refine .bind_of_ok (by simp) fun attempt connected => ?_
  have isConnected : incoming = .connected attempt := by
    cases incoming with
    | connected other => rw [Outcome.ok.inj connected]
    | endpointClosed => cases connected
    | handshakeFailed => cases connected
  refine .bind (authorizeHostPeer_emits passing fun introduction =>
    writes attempt introduction isConnected) fun authorization => ?_
  obtain ⟨_ | authorized, trust, limiter⟩ := authorization
  · exact .bind (by simpa using closing _) fun _ => by simp
  · exact .bind (prepareHostPeer_emits.mono passing) fun _ => by simp

/-- A prepared peer is on the connection that it introduced itself on, under the digest of its
certificate. -/
theorem setUpPeer_prepared {trustFile : TrustFile} {incoming : Incoming} {prepared : PreparedPeer}
    (done : (host.setUpPeer primitives config trustFile incoming).outcome =
      .ok (some prepared, next)) :
    ∃ attempt certificate, incoming = .connected attempt ∧
      peerCertificate attempt.identity = .ok certificate ∧
      prepared.peer.summary.deviceId = primitives.sha256 certificate ∧
      prepared.peer.connection = attempt.connection := by
  simp only [setUpPeer, Traced.bind_outcome, Traced.lift_outcome, Outcome.bind_eq_ok] at done
  obtain ⟨attempt, connected, ⟨_ | authorized, trust, limiter⟩, authorization, done⟩ := done
  · simp at done
  · simp only [Traced.bind_outcome, Outcome.bind_eq_ok, Traced.pure_outcome, Outcome.ok.injEq,
      Prod.mk.injEq, Option.some.injEq] at done
    obtain ⟨⟨peer, report⟩, preparation, rfl, _⟩ := done
    obtain ⟨summary, connection⟩ := prepareHostPeer_eq_ok preparation
    obtain ⟨certificate, presented, deviceId⟩ := authorizeHostPeer_deviceId authorization
    cases incoming with
    | connected other =>
        obtain rfl : other = attempt := Outcome.ok.inj connected
        exact ⟨other, certificate, rfl, presented, by rw [summary, deviceId], connection⟩
    | endpointClosed => cases connected
    | handshakeFailed => cases connected

/-- Layouts are written with the inventory that they are for. -/
theorem apply_returns {files written : TopologyFiles} {revision : Nat} {inventory : ScreenInventory}
    {command : LayoutCommand} {topology : ScreenTopology}
    (applied : files.apply revision inventory command = .ok (topology, written)) :
    (∃ layout : ScreenLayout, layout.resolve inventory = .ok topology) ∧
      written.inventory = .inventory inventory := by
  simp only [TopologyFiles.apply, TopologyFiles.saveInventory, Outcome.bind_eq_ok,
    Outcome.mapErr_eq_ok, Outcome.pure_eq, Outcome.ok.injEq, Prod.mk.injEq] at applied
  obtain ⟨_, _, _, _, layout, _, _, ⟨_, _, rfl⟩, _, resolved, rfl, rfl⟩ := applied
  exact ⟨⟨layout, resolved⟩, rfl⟩

/-- Arranging resolves some layout with the inventory of the host. -/
theorem arrange_returns {files : TopologyFiles} {topology : ScreenTopology}
    (returned : (host.arrange files stored).Returns outputs (topology, next)) :
    (∃ layout : ScreenLayout, layout.resolve host.inventory = .ok topology) ∧
      next = { host with layout := next.layout, direction := next.direction } ∧
      ∀ output ∈ outputs, output = .inventoryFile host.inventory ∨
        ∃ layout, output = .layoutFile layout := by
  unfold arrange at returned
  split at returned
  · exact (Traced.not_returns_fail returned).elim
  · cases given : host.direction with
    | none =>
        simp only [given, Traced.returns_bind, Traced.returns_lift, Outcome.mapErr_eq_ok,
          Traced.returns_pure, Prod.mk.injEq] at returned
        obtain ⟨_, _, _, ⟨resolved, rfl⟩, ⟨rfl, rfl, rfl⟩, rfl⟩ := returned
        exact ⟨⟨_, resolved⟩, rfl, by simp⟩
    | some direction =>
        simp only [given, Traced.returns_bind, Traced.returns_lift, Outcome.mapErr_eq_ok,
          Traced.returns_tell, Traced.returns_pure, Prod.mk.injEq] at returned
        obtain ⟨_, migrated, _, ⟨_, rfl⟩, ⟨_, ⟨applied, written⟩, _, ⟨done, rfl⟩, ⟨_, _, _, rfl,
          ⟨_, layout, _, ⟨_, rfl⟩, ⟨rfl, rfl, rfl⟩, rfl⟩, rfl⟩, rfl⟩, rfl⟩ := returned
        exact ⟨(apply_returns done).1, rfl, by simp⟩

/-- What admitting a prepared peer leaves: it is the peer of its device, and its screens are
merged. -/
structure Admitted (host next : Host) (prepared : PreparedPeer) (outputs : List HostOutput) :
    Prop where
  peers : ∃ before, SameConnections host.peers before ∧
    next.peers = before.insert prepared.peer.summary.deviceId.topologyId prepared.peer
  inventory : next.inventory =
    mergeRemoteInventory host.inventory prepared.peer.summary prepared.screens
  resolved : ∃ layout : ScreenLayout, layout.resolve next.inventory = .ok next.topology
  replaced : ∃ effects,
    host.session.replaceTopology next.topology = .ok (effects, next.session)
  capturing : next.capturing = true
  trust : next.trust = host.trust
  tasks : ∀ device connection, .spawnTasks device connection ∈ outputs ↔
    device = prepared.peer.summary.deviceId.topologyId ∧ connection = prepared.peer.connection
  noTrustFile : ∀ file, .trustFile file ∉ outputs
  inventoryFile : ∀ inventory, .inventoryFile inventory ∈ outputs ↔ inventory = next.inventory

theorem enterPeer_returns {peer : HostPeer}
    (returned : (host.enterPeer peer).Returns outputs next) :
    next = { host with
      peers := host.peers.insert peer.summary.deviceId.topologyId peer, capturing := true } ∧
    ∃ closing rest, outputs = closing ++ (.spawnTasks peer.summary.deviceId.topologyId
        peer.connection :: rest) ∧
      (∀ output ∈ closing, ∃ connection, output = .closeConnection connection) ∧
      ∀ output ∈ rest, output.Passing := by
  simp only [enterPeer, Traced.returns_bind, Traced.returns_tell, Traced.returns_pure] at returned
  obtain ⟨closing, _, _, closes, ⟨_, _, _, rfl, ⟨rest, _, _, announces, ⟨rfl, rfl⟩, rfl⟩, rfl⟩,
    rfl⟩ :=
    returned
  refine ⟨rfl, closing, rest, by simp, ?_, ?_⟩
  · rw [closes]
    split <;> simp
  · rw [announces]
    split_ifs <;> simp [HostOutput.Passing]

theorem admitPeer_returns {files : TopologyFiles} {prepared : PreparedPeer}
    (returned : (host.admitPeer closed files stored prepared).Returns outputs next) :
    Admitted host next prepared outputs := by
  simp only [admitPeer, Traced.returns_bind, saveInventory_returns, announceTopology,
    Traced.returns_tell, Traced.returns_lift, Traced.returns_pure] at returned
  obtain ⟨_, _, _, ⟨_, rfl⟩, ⟨written, ⟨topology, arranged⟩, _, arrangement, ⟨passing, installed, _,
    installation, ⟨entering, entered, _, entry, ⟨_, _, _, rfl, ⟨_, _, _, rfl, ⟨_, _, _, ⟨_, rfl⟩,
    ⟨requests, _, _, asks, ⟨_, _, _, rfl, ⟨rfl, rfl⟩, rfl⟩, rfl⟩, rfl⟩, rfl⟩, rfl⟩, rfl⟩, rfl⟩,
        rfl⟩,
    joined⟩ := returned
  obtain ⟨resolved, sameArranged, writes⟩ := arrange_returns arrangement
  obtain ⟨effects, replaced, executed, sameInstalled⟩ := install_returns installation
  obtain ⟨same, passes⟩ := executeHostEffectsMulti_returns executed
  obtain ⟨rfl, closing, rest, rfl, closes, restPasses⟩ := enterPeer_returns entry
  have inventory : installed.inventory =
      mergeRemoteInventory host.inventory prepared.peer.summary prepared.screens := by
    rw [sameInstalled, sameArranged]
  have sameTopology : installed.topology = topology := by rw [sameInstalled]
  have asksOnly : ∀ output ∈ requests, output.Passing := by
    intro output member
    rw [asks, List.mem_map] at member
    obtain ⟨_, _, rfl⟩ := member
    trivial
  -- Apart from closed connections and what passes, only the two files and the new tasks remain.
  have remaining : ∀ output : HostOutput, ¬ output.Passing →
      (∀ connection, output ≠ .closeConnection connection) →
      (output ∈ outputs ↔
        output = .inventoryFile (mergeRemoteInventory host.inventory prepared.peer.summary
            prepared.screens) ∨ output ∈ written ∨
          output = .spawnTasks prepared.peer.summary.deviceId.topologyId
              prepared.peer.connection) := by
    intro output stays notClosing
    have notNotify : ∀ event, output ≠ .notify event := by
      rintro event rfl
      exact stays trivial
    have notPassing : output ∉ passing := fun member => stays (passes output member)
    have notRest : output ∉ rest := fun member => stays (restPasses output member)
    have notAsks : output ∉ requests := fun member => stays (asksOnly output member)
    have notCloses : output ∉ closing := by
      intro member
      obtain ⟨connection, same⟩ := closes output member
      exact notClosing connection same
    simp [joined, notNotify, notPassing, notRest, notAsks, notCloses]
  rw [sameArranged] at same replaced
  exact
    { peers := ⟨installed.peers, same, rfl⟩
      inventory
      resolved := by
        rw [inventory, sameTopology]
        exact resolved
      replaced := by
        rw [sameTopology]
        exact ⟨effects, replaced⟩
      capturing := rfl
      trust := by
        rw [sameInstalled, sameArranged]
      tasks := by
        intro device connection
        rw [remaining (.spawnTasks device connection) not_false (by simp)]
        have notWritten : .spawnTasks device connection ∉ written := by
          intro member
          rcases writes _ member with absurd | ⟨_, absurd⟩ <;> cases absurd
        simp [notWritten]
      noTrustFile := by
        intro file
        rw [remaining (.trustFile file) not_false (by simp)]
        have notWritten : .trustFile file ∉ written := by
          intro member
          rcases writes _ member with absurd | ⟨_, absurd⟩ <;> cases absurd
        simp [notWritten]
      inventoryFile := by
        intro other
        rw [remaining (.inventoryFile other) not_false (by simp), inventory]
        constructor
        · rintro (same | member | absurd)
          · exact HostOutput.inventoryFile.inj same
          · rcases writes _ member with same | ⟨_, absurd⟩
            · exact HostOutput.inventoryFile.inj same
            · cases absurd
          · cases absurd
        · rintro rfl
          exact Or.inl rfl }

/-- The accept branch either leaves the service alone or admits a peer that introduced itself on the
incoming connection. -/
theorem accepted_returns {files : TopologyFiles} {trustFile : TrustFile} {incoming : Incoming}
    (returned : (host.accepted primitives config closed files trustFile stored incoming).Returns
      outputs next) :
    (host.SameService next ∧ ∀ output ∈ outputs, output.OfSetup) ∨
      ∃ prepared middle first rest attempt certificate,
        incoming = .connected attempt ∧
        peerCertificate attempt.identity = .ok certificate ∧
        prepared.peer.summary.deviceId = primitives.sha256 certificate ∧
        prepared.peer.connection = attempt.connection ∧
        host.SameService middle ∧ outputs = first ++ rest ∧
        (∀ output ∈ first, output.OfSetup) ∧ Admitted middle next prepared rest ∧
        host.SetsUp primitives config trustFile incoming := by
  simp only [accepted, Traced.returns_bind] at returned
  obtain ⟨first, ⟨prepared, middle⟩, rest, setUp, branch, rfl⟩ := returned
  have emitted : ∀ output ∈ first, output.OfSetup := by
    have emits : (host.setUpPeer primitives config trustFile incoming).Emits HostOutput.OfSetup :=
      setUpPeer_emits (fun output passes => by cases output <;> trivial) (fun _ => trivial)
        (fun _ _ _ _ _ _ _ _ _ => trivial)
    exact setUp.1 ▸ emits
  have same := setUpPeer_sameService setUp.2
  cases prepared with
  | none =>
      obtain ⟨rfl, rfl⟩ := Traced.returns_pure.mp branch
      exact Or.inl ⟨same, by simpa using emitted⟩
  | some prepared =>
      obtain ⟨attempt, certificate, rfl, presented, deviceId, connection⟩ :=
        setUpPeer_prepared setUp.2
      exact Or.inr ⟨prepared, middle, first, rest, attempt, certificate, rfl, presented, deviceId,
        connection, same, rfl, emitted, admitPeer_returns branch, prepared, middle, setUp.2⟩

end Host
end Rflow
