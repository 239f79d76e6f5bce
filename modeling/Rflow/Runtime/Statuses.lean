import Rflow.Runtime.Projection
import Rflow.Runtime.Upkeep
import Rflow.Runtime.WorldSteps

/-!
# The status of the host

The snapshot of a host shows the status that goes with its peer table, unless the host has turned a
device away after asking the user about it, or has forgotten its last peer: nothing sets the status
then.
-/

namespace Rflow

open Foundation

/-! ## The status in the snapshot -/

/-- An output that leaves the status as it is. -/
def HostOutput.Statusless (output : HostOutput) : Prop :=
  ∀ status, output ≠ .notify (.statusChanged status)

theorem HostOutput.OfUpkeep.statusless (output : HostOutput) (upkeep : output.OfUpkeep) :
    output.Statusless := by
  rintro status rfl
  exact upkeep

theorem HostOutput.OfExchange.statusless (output : HostOutput) (exchange : output.OfExchange) :
    output.Statusless := by
  rintro status rfl
  exact exchange

namespace RuntimeSnapshot

/-- The snapshot after what the host has put out. -/
def afterOutputs (snapshot : RuntimeSnapshot) (outputs : List HostOutput) : RuntimeSnapshot :=
  snapshot.observe (outputs.filterMap HostOutput.event)

variable {snapshot : RuntimeSnapshot} {outputs front : List HostOutput} {status : RuntimeStatus}

@[simp]
theorem apply_statusChanged : (snapshot.apply (.statusChanged status)).status = status := by
  simp only [apply]
  split_ifs <;> rfl

theorem apply_status {event : AppEvent} (other : ∀ status, event ≠ .statusChanged status) :
    (snapshot.apply event).status = snapshot.status := by
  cases event with
  | statusChanged status => exact (other status rfl).elim
  | pairingCleared requestId =>
      simp only [apply]
      split_ifs <;> rfl
  | pairingExpired requestId =>
      simp only [apply]
      split_ifs <;> rfl
  | _ => rfl

theorem afterOutputs_append (snapshot : RuntimeSnapshot) (first second : List HostOutput) :
    snapshot.afterOutputs (first ++ second) = (snapshot.afterOutputs
        first).afterOutputs second := by
  rw [afterOutputs, List.filterMap_append, observe_append]
  rfl

theorem afterOutputs_statusless (statusless : ∀ output ∈ outputs, output.Statusless) :
    (snapshot.afterOutputs outputs).status = snapshot.status := by
  induction outputs generalizing snapshot with
  | nil => rfl
  | cons output outputs induction =>
      obtain ⟨own, others⟩ := List.forall_mem_cons.mp statusless
      cases output with
      | notify event =>
          have kept : (snapshot.apply event).status = snapshot.status :=
            apply_status fun status same => own status (by rw [same])
          exact (induction others).trans kept
      | _ => exact induction others

/-- The last status that is set counts. -/
theorem afterOutputs_status (statusless : ∀ output ∈ outputs, output.Statusless) :
    (snapshot.afterOutputs (front ++ .notify (.statusChanged status) ::
        outputs)).status = status := by
  have after : ((snapshot.afterOutputs front).apply (.statusChanged status)).status = status :=
    apply_statusChanged
  rw [afterOutputs_append]
  exact (afterOutputs_statusless statusless).trans after

end RuntimeSnapshot

/-! ## The status of the peer table -/

/-- Someone is connected. -/
def Peers.Inhabited (peers : Peers) : Prop := ∃ device, device ∈ peers

theorem SameConnections.inhabited_iff {peers next : Peers} (same : SameConnections peers next) :
    next.Inhabited ↔ peers.Inhabited :=
  exists_congr fun _ => same.mem_iff

theorem Peers.inhabited_iff {peers : Peers} : peers.Inhabited ↔ peers.entries ≠ [] := by
  constructor
  · rintro ⟨device, present⟩ none
    rw [AList.mem_keys, AList.keys, none] at present
    cases present
  · intro nonempty
    obtain ⟨entry, member⟩ := List.exists_mem_of_ne_nil _ nonempty
    exact ⟨entry.1, List.mem_keys_of_mem member⟩

/-- Without one device, someone is connected exactly when someone was before, unless it was the only
one. -/
theorem Peers.inhabited_erase {peers : Peers} {device : TopologyDeviceId} :
    (Peers.Inhabited (peers.erase device) ↔ peers.Inhabited) ↔ peers.keys ≠ [device] := by
  have remaining : Peers.Inhabited (peers.erase device) ↔ ∃ other, other ≠ device ∧
      other ∈ peers := by
    simp [Peers.Inhabited]
  rw [remaining]
  constructor
  · intro same only
    have only_mem {other : TopologyDeviceId} : other ∈ peers ↔ other = device := by
      rw [AList.mem_keys, only, List.mem_singleton]
    obtain ⟨other, distinct, present⟩ := same.mpr ⟨device, only_mem.mpr rfl⟩
    exact distinct (only_mem.mp present)
  · intro others
    refine ⟨fun ⟨other, _, present⟩ => ⟨other, present⟩, fun ⟨known, present⟩ => ?_⟩
    by_contra none
    have all (other : TopologyDeviceId) (member : other ∈ peers.keys) : other = device := by
      by_contra distinct
      exact none ⟨other, distinct, AList.mem_keys.mpr member⟩
    have nonempty : peers.keys ≠ [] := List.ne_nil_of_mem (AList.mem_keys.mp present)
    have replicated := List.eq_replicate_of_mem all
    have short : peers.keys.length ≤ 1 := by
      have nodup := peers.keys_nodup
      rw [replicated, List.nodup_replicate] at nodup
      exact nodup
    have length : peers.keys.length = 1 :=
      le_antisymm short (List.length_pos_iff.mpr nonempty)
    rw [length] at replicated
    exact others replicated

namespace Host

variable {primitives : Primitives} {config : HostConfig} {closed : Finset Nat} {host next : Host}
  {outputs : List HostOutput} {stored : StoredLayout} {snapshot : RuntimeSnapshot}

/-- Two states of the loop have the same status when someone is connected in both or in none. -/
theorem peerStatus_eq_iff :
    host.peerStatus = next.peerStatus ↔ (next.peers.Inhabited ↔ host.peers.Inhabited) := by
  rw [Peers.inhabited_iff, Peers.inhabited_iff]
  unfold peerStatus
  by_cases one : host.peers.entries = [] <;> by_cases other : next.peers.entries = [] <;>
    simp [one, other]

theorem peerStatus_ne_pairingPending : host.peerStatus ≠ .pairingPending := by
  unfold peerStatus
  split_ifs <;> simp

/-- A branch that says nothing about the status and keeps everyone connected. -/
theorem status_of_upkeep (upkeep : ∀ output ∈ outputs, output.OfUpkeep)
    (same : SameConnections host.peers next.peers) (shown : snapshot.status = host.peerStatus) :
    (snapshot.afterOutputs outputs).status = next.peerStatus := by
  rw [RuntimeSnapshot.afterOutputs_statusless fun output member =>
    (upkeep output member).statusless, shown, peerStatus_eq_iff]
  exact same.inhabited_iff

/-! ## An incoming connection -/

/-- The host asks the user about the peer that introduces itself on a connection. -/
def Asks (primitives : Primitives) (attempt : Attempt) (trust : TrustDatabase)
    (limiter : PairingRateLimiter) (introduction : Introduction) : Prop :=
  trust.trusts primitives.sha256 introduction.client.certificate = false ∧
    (limiter.allow attempt.connection.remoteAddress.ip attempt.now).1 = true

section TurnedAway

variable {attempt : Attempt} {trust : TrustStore} {limiter left : PairingRateLimiter}
  {database : TrustDatabase} {introduction : Introduction}

/-- A request that is turned away leaves the status alone when there have been too many, and leaves
it at the pending request when the user does not accept it. -/
theorem requestDecision_status
    (returned : (requestDecision primitives attempt trust limiter introduction).Returns outputs
      (none, database, left)) :
    ((limiter.allow attempt.connection.remoteAddress.ip attempt.now).1 = false ∧
        ∀ output ∈ outputs, output.Statusless) ∨
      (limiter.allow attempt.connection.remoteAddress.ip attempt.now).1 = true ∧
        ¬ Accepted attempt introduction ∧
        ∃ rest, outputs = .notify (.statusChanged .pairingPending) :: rest ∧
          ∀ output ∈ rest, output.Statusless := by
  have rejects : ∀ output ∈ (reject attempt).outputs, output.Statusless :=
    reject_exchange.mono HostOutput.OfExchange.statusless
  simp only [requestDecision] at returned
  rcases allowance : limiter.allow attempt.connection.remoteAddress.ip attempt.now with
    ⟨allowed, later⟩
  simp only [allowance] at returned
  cases allowed with
  | false =>
      simp only [if_true, Traced.returns_bind, Traced.returns_pure] at returned
      obtain ⟨_, _, _, ⟨rfl, _⟩, ⟨rfl, _⟩, rfl⟩ := returned
      exact Or.inl ⟨rfl, by simpa using rejects⟩
  | true =>
      simp only [Bool.true_eq_false, if_false, Traced.returns_bind, Traced.returns_tell] at returned
      obtain ⟨_, _, _, rfl, ⟨_, _, _, rfl, ends, rfl⟩, rfl⟩ := returned
      by_cases declined : pairingOutcome introduction.proof.requestId attempt.signals ≠ .accepted
      · rw [if_pos declined, Traced.returns_bind] at ends
        obtain ⟨_, _, _, ⟨rfl, _⟩, done, rfl⟩ := ends
        obtain ⟨rfl, _⟩ := Traced.returns_pure.mp done
        have retracts : (HostOutput.notify
            (if pairingOutcome introduction.proof.requestId attempt.signals = .expired then
              .pairingExpired introduction.proof.requestId
            else .pairingCleared introduction.proof.requestId)).Statusless := by
          split_ifs <;> simp [HostOutput.Statusless]
        refine Or.inr ⟨rfl, declined, _, rfl, ?_⟩
        simpa [HostOutput.Statusless, or_imp, forall_and] using And.intro retracts rejects
      · rw [if_neg declined, Traced.returns_bind] at ends
        obtain ⟨_, _, _, _, done, _⟩ := ends
        cases (Prod.mk.inj (Traced.returns_pure.mp done).2).1

/-- A device is turned away without the status being touched, or the user has been asked about
it. -/
theorem authorizeHostPeer_status
    (returned : (authorizeHostPeer primitives config attempt trust limiter).Returns outputs
      (none, database, left)) :
    ((∀ introduction, Introduces primitives config attempt introduction →
          ¬ Asks primitives attempt trust.database limiter introduction) ∧
        ∀ output ∈ outputs, output.Statusless) ∨
      ∃ introduction, Introduces primitives config attempt introduction ∧
        Asks primitives attempt trust.database limiter introduction ∧
        ¬ Accepted attempt introduction ∧
        ∃ front rest, outputs = front ++ .notify (.statusChanged .pairingPending) :: rest ∧
          ∀ output ∈ rest, output.Statusless := by
  simp only [authorizeHostPeer, Traced.returns_bind] at returned
  obtain ⟨first, introduced, rest, introduces, decides, rfl⟩ := returned
  have exchanged : ∀ output ∈ first, output.Statusless := introduces.1 ▸
    introduce_exchange.mono HostOutput.OfExchange.statusless
  cases introduced with
  | none =>
      obtain ⟨rfl, _⟩ := Traced.returns_pure.mp decides
      refine Or.inl ⟨fun introduction again => ?_, by simpa using exchanged⟩
      cases (introduce_eq_some.mpr again).symm.trans introduces.2
  | some introduction =>
      cases trusted : trust.database.trusts primitives.sha256 introduction.client.certificate with
      | true =>
          simp only [trusted, if_true, Traced.returns_bind, Traced.returns_pure] at decides
          obtain ⟨_, _, _, _, ⟨_, _, _, _, ⟨_, absurd⟩, _⟩, _⟩ := decides
          cases (Prod.mk.inj absurd).1
      | false =>
          simp only [trusted, Bool.false_eq_true, if_false] at decides
          rcases requestDecision_status decides with ⟨refused, statusless⟩ | ⟨allowed, declined,
            later, rfl, statusless⟩
          · refine Or.inl ⟨fun _ _ asks => ?_, ?_⟩
            · cases asks.2.symm.trans refused
            · simpa [or_imp, forall_and] using ⟨exchanged, statusless⟩
          · exact Or.inr ⟨introduction, introduce_eq_some.mp introduces.2,
              ⟨trusted, allowed⟩, declined, first, later, rfl, statusless⟩

end TurnedAway

/-- If the host asks the user about the device of an incoming connection, then the user accepts
it. -/
def AcceptsIfAsked (primitives : Primitives) (config : HostConfig) (host : Host) :
    Incoming → Prop
  | .connected attempt =>
      ∀ introduction, Introduces primitives config attempt introduction →
        Asks primitives attempt host.trust host.limiter introduction → Accepted attempt introduction
  | _ => True

section Incoming

variable {trustFile : TrustFile} {incoming : Incoming}

theorem acceptOne_eq_ok {attempt : Attempt} (connected : acceptOne incoming = .ok attempt) :
    incoming = .connected attempt := by
  cases incoming with
  | connected other => rw [Outcome.ok.inj connected]
  | endpointClosed => cases connected
  | handshakeFailed => cases connected

/-- A device that is turned away leaves the status alone exactly when the user has not been
asked. -/
theorem turnedAway_status
    (returned : (host.setUpPeer primitives config trustFile incoming).Returns outputs (none, next))
    (shown : snapshot.status = host.peerStatus) :
    (snapshot.afterOutputs outputs).status = host.peerStatus ↔
      host.AcceptsIfAsked primitives config incoming := by
  simp only [setUpPeer, Traced.returns_bind, Traced.returns_lift] at returned
  obtain ⟨_, attempt, _, ⟨connected, rfl⟩, ⟨sent, ⟨authorized, trust, limiter⟩, last,
    authorizes, ends, rfl⟩, rfl⟩ := returned
  obtain rfl := acceptOne_eq_ok connected
  cases authorized with
  | some authorized =>
      simp only [Traced.returns_bind, Traced.returns_pure] at ends
      obtain ⟨_, _, _, _, ⟨_, absurd⟩, _⟩ := ends
      cases (Prod.mk.inj absurd).1
  | none =>
      simp only [Traced.returns_bind, Traced.returns_tell, Traced.returns_pure] at ends
      obtain ⟨_, _, _, rfl, ⟨rfl, _⟩, rfl⟩ := ends
      have closing : (HostOutput.closeConnection attempt.connection.id).Statusless := by
        simp [HostOutput.Statusless]
      rcases authorizeHostPeer_status authorizes with ⟨unasked, statusless⟩ | ⟨introduction,
        introduces, asks, declined, front, rest, rfl, statusless⟩
      · refine iff_of_true ?_ fun introduction introduces asks => ?_
        · rw [RuntimeSnapshot.afterOutputs_statusless (by
            simpa [or_imp, forall_and] using ⟨statusless, closing⟩), shown]
        · exact (unasked introduction introduces asks).elim
      · refine iff_of_false ?_ fun accepts => declined (accepts introduction introduces asks)
        have after : (snapshot.afterOutputs (front ++ .notify (.statusChanged .pairingPending) ::
            (rest ++ [.closeConnection attempt.connection.id]))).status = .pairingPending :=
          RuntimeSnapshot.afterOutputs_status (by
            simpa [or_imp, forall_and] using ⟨statusless, closing⟩)
        simp only [List.nil_append, List.append_nil, List.append_assoc, List.cons_append, after]
        exact peerStatus_ne_pairingPending.symm

/-- A device that is set up is trusted or accepted. -/
theorem setUpPeer_accepts {prepared : PreparedPeer}
    (done : (host.setUpPeer primitives config trustFile incoming).outcome =
      .ok (some prepared, next)) : host.AcceptsIfAsked primitives config incoming := by
  simp only [setUpPeer, Traced.bind_outcome, Traced.lift_outcome, Outcome.bind_eq_ok] at done
  obtain ⟨attempt, connected, ⟨authorized, trust, limiter⟩, authorization, done⟩ := done
  obtain rfl := acceptOne_eq_ok connected
  cases authorized with
  | none => simp at done
  | some authorized =>
      intro other again asks
      obtain ⟨introduction, introduces, ⟨trusted, _⟩ | ⟨accepted, _⟩⟩ :=
        authorizeHostPeer_eq_some authorization
      · rw [introduces.unique again] at trusted
        cases asks.1.symm.trans trusted
      · rw [introduces.unique again] at accepted
        exact accepted.2.2

/-- After an incoming connection the snapshot shows the status of the peer table exactly when the
user has accepted the device that was asked about, if any. -/
theorem accepted_status {files : TopologyFiles}
    (returned : (host.accepted primitives config closed files trustFile stored incoming).Returns
      outputs next) (shown : snapshot.status = host.peerStatus) :
    (snapshot.afterOutputs outputs).status = next.peerStatus ↔
      host.AcceptsIfAsked primitives config incoming := by
  simp only [accepted, Traced.returns_bind] at returned
  obtain ⟨first, ⟨prepared, middle⟩, rest, setUp, branch, rfl⟩ := returned
  have same := setUpPeer_sameService setUp.2
  cases prepared with
  | none =>
      obtain ⟨rfl, rfl⟩ := Traced.returns_pure.mp branch
      have status : middle.peerStatus = host.peerStatus := by
        rw [peerStatus, same.peers, peerStatus]
      rw [List.append_nil, status]
      exact turnedAway_status setUp shown
  | some prepared =>
      refine iff_of_true ?_ (setUpPeer_accepts setUp.2)
      obtain ⟨front, rfl⟩ := admitPeer_status branch
      obtain ⟨before, _, inserted⟩ := (admitPeer_returns branch).peers
      have inhabited : Peers.Inhabited next.peers :=
        ⟨prepared.peer.summary.deviceId.topologyId, by rw [inserted]; simp⟩
      have connected : next.peerStatus = .connected :=
        if_neg (Peers.inhabited_iff.mp inhabited)
      rw [connected, ← List.append_assoc]
      exact RuntimeSnapshot.afterOutputs_status (by simp)

end Incoming

/-! ## The other branches -/

/-- A peer is not the only one of the host. -/
def NotLast (host : Host) (deviceId : DeviceId) : Prop := host.peers.keys ≠ [deviceId.topologyId]

/-- After a device is forgotten the snapshot shows the status of the peer table exactly when it was
not the last peer. -/
theorem forgotten_status {deviceId : DeviceId}
    (returned : (host.forgotten closed deviceId stored).Returns outputs next)
    (shown : snapshot.status = host.peerStatus) :
    (snapshot.afterOutputs outputs).status = next.peerStatus ↔ host.NotLast deviceId := by
  have upkeep : ∀ output ∈ outputs, output.OfUpkeep := returned.1 ▸ forgotten_upkeep
  obtain ⟨_, _, _, _, _, _, refreshed⟩ := forgotten_returns returned
  rw [RuntimeSnapshot.afterOutputs_statusless fun output member =>
      (upkeep output member).statusless,
    shown, peerStatus_eq_iff, refreshed.sameConnections.inhabited_iff]
  exact Peers.inhabited_erase

theorem captured_status {event : Outcome String CapturedEvent}
    (returned : (host.captured closed event).Returns outputs next)
    (shown : snapshot.status = host.peerStatus) :
    (snapshot.afterOutputs outputs).status = next.peerStatus := by
  obtain ⟨_, _, _, _, same, _⟩ := captured_returns returned
  exact status_of_upkeep (returned.1 ▸ captured_upkeep) same shown

theorem inventoryReported_status {device : TopologyDeviceId} {remote : SocketAddr}
    {screens : ReportedScreens}
    (returned : (host.inventoryReported closed device remote screens stored).Returns outputs next)
    (shown : snapshot.status = host.peerStatus) :
    (snapshot.afterOutputs outputs).status = next.peerStatus := by
  refine status_of_upkeep (returned.1 ▸ inventoryReported_upkeep) ?_ shown
  obtain ⟨_, rfl, _⟩ | ⟨_, _, _, _, _, _, _, refreshed⟩ := inventoryReported_returns returned
  · exact .refl _
  · exact refreshed.sameConnections

theorem heartbeat_status {detected : Option (List DetectedScreen)}
    (returned : (host.heartbeat primitives config closed detected stored).Returns outputs next)
    (shown : snapshot.status = host.peerStatus) :
    (snapshot.afterOutputs outputs).status = next.peerStatus := by
  refine status_of_upkeep (returned.1 ▸ heartbeat_upkeep) ?_ shown
  obtain ⟨middle, _, _, _, _, refreshes, rfl⟩ := heartbeat_returns returned
  have same : SameConnections host.peers middle.peers := by
    obtain ⟨rfl, _⟩ | ⟨_, _, _, _, _, refreshed⟩ := refreshScreens_returns refreshes
    · exact .refl _
    · exact refreshed.sameConnections
  exact same.trans (sameConnections_beat middle.peers)

theorem topologyUpdated_status {topology : ScreenTopology}
    (returned : (host.topologyUpdated closed topology stored).Returns outputs next)
    (shown : snapshot.status = host.peerStatus) :
    (snapshot.afterOutputs outputs).status = next.peerStatus := by
  obtain ⟨_, _, _, _, executed, _⟩ := topologyUpdated_returns returned
  exact status_of_upkeep (returned.1 ▸ topologyUpdated_upkeep)
    (executeHostEffectsMulti_returns executed).1 shown

theorem disconnected_shows {device : TopologyDeviceId} {remote : SocketAddr}
    (returned : (host.disconnected closed device remote stored).Returns outputs next)
    (shown : snapshot.status = host.peerStatus) :
    (snapshot.afterOutputs outputs).status = next.peerStatus := by
  obtain ⟨rfl, rfl⟩ | ⟨front, rfl⟩ := disconnected_status returned
  · exact shown
  · exact RuntimeSnapshot.afterOutputs_status (by simp)

end Host

/-! ## Runs -/

namespace World

section Steps

variable (primitives : Primitives) (config : HostConfig)

/-- One step of the world, with what the host puts out folded into the snapshot. -/
def observedStep : Machine.Step (World × RuntimeSnapshot) WorldInput HostOutput Unit :=
  fun state input => do
    let result ← state.1.step primitives config input
    pure (result.1, result.2, state.2.afterOutputs result.1)

/-- The world when the loop starts; the host has told the application that it listens. -/
def observedStart (host : Host) (files : TopologyFiles) (trustFile : TrustFile)
    (snapshot : RuntimeSnapshot) : World × RuntimeSnapshot :=
  (start host files trustFile,
    snapshot.observe [.topologyChanged host.topology, .statusChanged .listening])

/-- The loop waits for its next turn. -/
def Waits (state : World × RuntimeSnapshot) : Prop := ∃ host, state.1.host = .running host

/-- While the loop waits for its next turn, the snapshot shows the status of the peer table. -/
def StatusMatches (state : World × RuntimeSnapshot) : Prop :=
  ∀ host, state.1.host = .running host → state.2.status = host.peerStatus

/-- A turn does not turn a device away that the user has been asked about, and does not forget the
last peer. -/
def RestoresStatus (state : World × RuntimeSnapshot) : WorldInput → Prop
  | .turn (.accept incoming _) =>
      ∀ host, state.1.host = .running host → host.AcceptsIfAsked primitives config incoming
  | .turn (.takeForget _) =>
      ∀ host deviceId, state.1.host = .running host →
        state.1.forgetRequests.head? = some deviceId → host.NotLast deviceId
  | _ => True

end Steps

variable {primitives : Primitives} {config : HostConfig} {state after : World × RuntimeSnapshot}
  {input : WorldInput} {outputs : List HostOutput} {next : Host}

theorem observedStep_eq_ok
    (stepped : observedStep primitives config state input = .ok (outputs, after)) :
    state.1.step primitives config input = .ok (outputs, after.1) ∧
      after.2 = state.2.afterOutputs outputs := by
  simp only [observedStep, Outcome.bind_eq_ok, Outcome.pure_eq, Outcome.ok.injEq,
    Prod.mk.injEq] at stepped
  obtain ⟨result, stepped, rfl, rfl⟩ := stepped
  exact ⟨stepped, rfl⟩

/-- A loop that goes on after a step has waited for it. -/
theorem Waits.before (stepped : observedStep primitives config state input = .ok (outputs, after))
    (waits : Waits after) : Waits state := by
  obtain ⟨stepped, _⟩ := observedStep_eq_ok stepped
  cases input with
  | neighbour neighbour =>
      obtain ⟨next, resumed⟩ := waits
      exact ⟨next, neighbourStep_host (step_neighbour stepped).1 ▸ resumed⟩
  | turn turn =>
      obtain ⟨host, running, _⟩ := step_turn stepped
      exact ⟨host, running⟩

/-- A turn that goes on restores the status exactly when it turns nobody away after asking and does
not forget the last peer. -/
theorem turn_status {world afterwards : World} {host : Host} {turn : LoopTurn}
    {snapshot : RuntimeSnapshot}
    (turned : world.turn primitives config host turn = .ok (outputs, afterwards))
    (running : world.host = .running host) (resumed : afterwards.host = .running next)
    (shown : snapshot.status = host.peerStatus) :
    (snapshot.afterOutputs outputs).status = next.peerStatus ↔
      RestoresStatus primitives config (world, snapshot) (.turn turn) := by
  obtain ⟨queue, branch, turns, returned, _⟩ := turn_running turned resumed
  cases turns with
  | accept =>
      rw [Host.accepted_status returned shown]
      constructor
      · intro accepts other again
        rw [← HostPhase.running.inj (running.symm.trans again)]
        exact accepts
      · exact fun restores => restores host running
  | takeForget queued =>
      rw [Host.forgotten_status returned shown]
      constructor
      · intro others other deviceId again head
        rw [← HostPhase.running.inj (running.symm.trans again)]
        rw [queued, List.head?_cons, Option.some.injEq] at head
        exact head ▸ others
      · intro restores
        exact restores host _ running (by rw [queued, List.head?_cons])
  | capture => exact iff_of_true (Host.captured_status returned shown) trivial
  | takeNotice => exact iff_of_true (Host.disconnected_shows returned shown) trivial
  | takeReport => exact iff_of_true (Host.inventoryReported_status returned shown) trivial
  | heartbeat => exact iff_of_true (Host.heartbeat_status returned shown) trivial
  | takeTopology => exact iff_of_true (Host.topologyUpdated_status returned shown) trivial

theorem step_status (shows : StatusMatches state)
    (stepped : observedStep primitives config state input = .ok (outputs, after))
    (resumed : after.1.host = .running next) :
    StatusMatches after ↔ RestoresStatus primitives config state input := by
  obtain ⟨stepped, observed⟩ := observedStep_eq_ok stepped
  have matches_iff : StatusMatches after ↔
      (state.2.afterOutputs outputs).status = next.peerStatus := by
    rw [← observed]
    refine ⟨fun shown => shown next resumed, fun shown host running => ?_⟩
    rw [← HostPhase.running.inj (resumed.symm.trans running)]
    exact shown
  rw [matches_iff]
  cases input with
  | neighbour neighbour =>
      obtain ⟨neighbours, rfl⟩ := step_neighbour stepped
      exact iff_of_true (shows next (neighbourStep_host neighbours ▸ resumed)) trivial
  | turn turn =>
      obtain ⟨host, running, turned⟩ := step_turn stepped
      exact turn_status turned running resumed (shows host running)

/-- In every run of a host that is back at its loop, the snapshot shows the status of the peer table
throughout exactly when no device is turned away after the user has been asked about it and the last
peer is never forgotten. -/
theorem status_matches_iff {direction : Option ScreenDirection} {stored : TopologyState}
    {trust : TrustDatabase} {screens : List DetectedScreen} {x y : Int} {host : Host}
    {files : TopologyFiles} {trustFile : TrustFile} {snapshot : RuntimeSnapshot}
    {inputs : List WorldInput} {final : World × RuntimeSnapshot}
    (starts : Host.start primitives config direction stored trust screens x y = .ok host)
    (ran : Machine.run (observedStep primitives config)
      (observedStart host files trustFile snapshot) inputs = .ok (outputs, final))
    (waits : Waits final) :
    Machine.Throughout (observedStep primitives config) StatusMatches
        (observedStart host files trustFile snapshot) inputs ↔
      Machine.Along (observedStep primitives config) (RestoresStatus primitives config)
        (observedStart host files trustFile snapshot) inputs := by
  have listening : StatusMatches (observedStart host files trustFile snapshot) := by
    intro other began
    obtain rfl := HostPhase.running.inj began
    have alone : host.peerStatus = .listening := by
      rw [Host.peerStatus, Host.start_peers starts]
      rfl
    rw [alone]
    simp [observedStart]
  refine Machine.throughout_iff_along_alive Waits.before ?_ listening ran waits
  rintro _ _ _ _ shows stepped ⟨_, resumed⟩
  exact step_status shows stepped resumed

/-- A trusted device connects. -/
theorem status_matches_connected :
    ∃ started outputs final,
      sampleHost sampleTrust = .ok started ∧
        Machine.run (observedStep samplePrimitives sampleConfig)
            (observedStart started sampleFiles (.database sampleTrust) default)
            [sampleAccept (sampleConnection 0 24801)] = .ok (outputs, final) ∧
        Machine.Throughout (observedStep samplePrimitives sampleConfig) StatusMatches
          (observedStart started sampleFiles (.database sampleTrust) default)
          [sampleAccept (sampleConnection 0 24801)] := by
  have connects : ((sampleHost sampleTrust).any fun started =>
      (Machine.run (observedStep samplePrimitives sampleConfig)
          (observedStart started sampleFiles (.database sampleTrust) default)
          [sampleAccept (sampleConnection 0 24801)]).any fun result =>
        result.2.1.host.runs fun _ => true) = true := by decide +kernel
  obtain ⟨started, starts, connects⟩ := Outcome.any_eq_true.mp connects
  obtain ⟨⟨outputs, final⟩, ran, connects⟩ := Outcome.any_eq_true.mp connects
  obtain ⟨next, resumed, _⟩ := HostPhase.runs_eq_true.mp connects
  refine ⟨started, outputs, final, starts, ran, ?_⟩
  refine (status_matches_iff starts ran ⟨next, resumed⟩).mpr ⟨?_, fun _ _ _ => trivial⟩
  rintro host running introduction introduces ⟨untrusted, _⟩
  obtain rfl := HostPhase.running.inj running
  have certificate : introduction.client.certificate = [1] :=
    (Outcome.ok.inj introduces.certificate).symm
  rw [certificate, Host.start_trust starts] at untrusted
  exact absurd untrusted (by decide)

/-- The request of an unknown device expires, and the status stays at the pending request; the only
peer is forgotten, and the status stays at connected. -/
theorem status_left_behind :
    (∃ started outputs final host,
      sampleHost default = .ok started ∧
        Machine.run (observedStep samplePrimitives sampleConfig)
            (observedStart started sampleFiles .absent default)
            [sampleAccept (sampleConnection 0 24801)] = .ok (outputs, final) ∧
        final.1.host = .running host ∧ final.2.status = .pairingPending ∧
        ¬ StatusMatches final) ∧
      ∃ started outputs final host,
        sampleHost sampleTrust = .ok started ∧
          Machine.run (observedStep samplePrimitives sampleConfig)
              (observedStart started sampleFiles (.database sampleTrust) default)
              [sampleAccept (sampleConnection 0 24801),
                .neighbour (.startForget (some (sampleDeviceId 1))),
                .neighbour (.commitForget
                  { target := some (sampleDeviceId 1), database := sampleTrust } none),
                .turn (.takeForget (.ok (sampleLayout true)))] = .ok (outputs, final) ∧
          final.1.host = .running host ∧ host.peers.keys = [] ∧ final.2.status = .connected ∧
          ¬ StatusMatches final := by
  have stays : ((sampleHost default).any fun started =>
      (Machine.run (observedStep samplePrimitives sampleConfig)
          (observedStart started sampleFiles .absent default)
          [sampleAccept (sampleConnection 0 24801)]).any fun result =>
        result.2.1.host.runs fun _ => result.2.2.status = .pairingPending) = true := by
          decide +kernel
  have remains : ((sampleHost sampleTrust).any fun started =>
      (Machine.run (observedStep samplePrimitives sampleConfig)
          (observedStart started sampleFiles (.database sampleTrust) default)
          [sampleAccept (sampleConnection 0 24801),
            .neighbour (.startForget (some (sampleDeviceId 1))),
            .neighbour (.commitForget
              { target := some (sampleDeviceId 1), database := sampleTrust } none),
            .turn (.takeForget (.ok (sampleLayout true)))]).any fun result =>
        result.2.1.host.runs fun host =>
          host.peers.keys = [] ∧ host.peerStatus = .listening ∧ result.2.2.status = .connected) =
            true := by
    decide +kernel
  constructor
  · obtain ⟨started, starts, stays⟩ := Outcome.any_eq_true.mp stays
    obtain ⟨⟨outputs, final⟩, ran, stays⟩ := Outcome.any_eq_true.mp stays
    obtain ⟨host, resumed, stays⟩ := HostPhase.runs_eq_true.mp stays
    have pending : final.2.status = .pairingPending := of_decide_eq_true stays
    refine ⟨started, outputs, final, host, starts, ran, resumed, pending, fun shows => ?_⟩
    exact Host.peerStatus_ne_pairingPending ((shows host resumed).symm.trans pending)
  · obtain ⟨started, starts, remains⟩ := Outcome.any_eq_true.mp remains
    obtain ⟨⟨outputs, final⟩, ran, remains⟩ := Outcome.any_eq_true.mp remains
    obtain ⟨host, resumed, remains⟩ := HostPhase.runs_eq_true.mp remains
    obtain ⟨alone, listening, connected⟩ := of_decide_eq_true remains
    refine ⟨started, outputs, final, host, starts, ran, resumed, alone, connected, fun shows => ?_⟩
    cases connected.symm.trans ((shows host resumed).trans listening)

end World
end Rflow
