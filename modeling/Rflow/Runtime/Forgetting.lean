import Rflow.Runtime.Upkeep
import Rflow.Runtime.WorldSteps

/-!
# Forgetting a trusted device

A command in another process removes a device from the trust file and tells the host to forget it.
The host drops the peer of the device, but not the entry in its own copy of the database, which it
writes as a whole when it remembers the next device.
-/

namespace Rflow

open Foundation

/-- An output that leaves the trust file alone. -/
def HostOutput.SparesTrust : HostOutput → Prop
  | .trustFile _ => False
  | _ => True

theorem HostOutput.Passing.sparesTrust (output : HostOutput) (passing : output.Passing) :
    output.SparesTrust := by
  cases output <;> trivial

theorem HostOutput.OfService.sparesTrust (output : HostOutput) (service : output.OfService) :
    output.SparesTrust := by
  cases output <;> trivial

/-! ## Trusted certificates -/

namespace TrustDatabase

variable {fromCertificate : Certificate → DeviceId} {database : TrustDatabase} {deviceId : DeviceId}
  {certificate : Certificate}

/-- The certificate of a device that is not listed is not trusted. -/
theorem not_trusts (unlisted : database.lists deviceId = false)
    (digest : fromCertificate certificate = deviceId) :
    database.trusts fromCertificate certificate = false := by
  rw [Bool.eq_false_iff] at unlisted ⊢
  intro trusted
  obtain ⟨peer, member, same, _⟩ := trusts_iff.mp trusted
  exact unlisted (lists_iff.mpr (List.mem_map.mpr ⟨peer, member, same.trans digest⟩))

/-- A listed device has a trusted certificate. -/
theorem WellFormed.exists_trusts (wellFormed : database.WellFormed fromCertificate)
    (listed : database.lists deviceId = true) :
    ∃ certificate, fromCertificate certificate = deviceId ∧
      database.trusts fromCertificate certificate = true := by
  obtain ⟨peer, member, same⟩ := List.mem_map.mp (lists_iff.mp listed)
  have genuine := wellFormed.fingerprints peer member
  exact ⟨peer.certificate, genuine.symm.trans same, trusts_iff.mpr ⟨peer, member, genuine, rfl⟩⟩

end TrustDatabase

/-! ## What a host remembers -/

namespace Host

variable {primitives : Primitives} {config : HostConfig} {closed : Finset Nat} {host next : Host}
  {outputs : List HostOutput} {files : TopologyFiles} {trustFile : TrustFile}
  {stored : StoredLayout}
  {incoming : Incoming}

/-- The peer of an incoming connection makes a request that is accepted, and remembering it gives a
database. -/
def Remembers (primitives : Primitives) (config : HostConfig) (host : Host) (incoming : Incoming)
    (deviceId : DeviceId) (candidate : TrustDatabase) : Prop :=
  ∃ attempt introduction, incoming = .connected attempt ∧
    Introduces primitives config attempt introduction ∧
    RequestAccepted primitives attempt host.trust host.limiter introduction ∧
    primitives.sha256 introduction.client.certificate = deviceId ∧
    host.trust.remembering primitives.sha256 introduction.clientName
      introduction.client.certificate attempt.unixTimestamp = .ok candidate

theorem setUpPeer_trust {prepared : Option PreparedPeer}
    (done : (host.setUpPeer primitives config trustFile incoming).outcome = .ok (prepared, next)) :
    next.trust = host.trust ∨
      ∃ deviceId, Remembers primitives config host incoming deviceId next.trust := by
  simp only [setUpPeer, Traced.bind_outcome, Traced.lift_outcome, Outcome.bind_eq_ok] at done
  obtain ⟨attempt, connected, ⟨authorized, trust, limiter⟩, authorization, done⟩ := done
  have left : next.trust = trust := by
    cases authorized with
    | none =>
        simp only [Traced.bind_outcome, Traced.tell_outcome, Outcome.ok_bind, Traced.pure_outcome,
          Outcome.ok.injEq, Prod.mk.injEq] at done
        rw [← done.2]
    | some authorized =>
        simp only [Traced.bind_outcome, Outcome.bind_eq_ok, Traced.pure_outcome, Outcome.ok.injEq,
          Prod.mk.injEq] at done
        obtain ⟨_, _, _, rfl⟩ := done
        rfl
  rw [left]
  rcases authorizeHostPeer_trust authorization with
    same | ⟨introduction, introduces, accepted, candidate⟩
  · exact Or.inl same
  · cases incoming with
    | connected other =>
        obtain rfl : other = attempt := Outcome.ok.inj connected
        exact Or.inr ⟨_, other, introduction, rfl, introduces, accepted, rfl, candidate⟩
    | endpointClosed => cases connected
    | handshakeFailed => cases connected

/-- The accept branch leaves the trust database as it is, or remembers the device of the
connection. -/
theorem accepted_trust
    (returned : (host.accepted primitives config closed files trustFile stored incoming).Returns
      outputs next) :
    next.trust = host.trust ∨
      ∃ deviceId, Remembers primitives config host incoming deviceId next.trust := by
  simp only [accepted, Traced.returns_bind] at returned
  obtain ⟨_, ⟨prepared, middle⟩, _, setUp, branch, _⟩ := returned
  have kept : next.trust = middle.trust := by
    cases prepared with
    | none => rw [(Traced.returns_pure.mp branch).2]
    | some prepared => exact (admitPeer_returns branch).trust
  rw [kept]
  exact setUpPeer_trust setUp.2

/-- The accept branch writes to the trust file only what it remembers, however it ends. -/
theorem accepted_writes :
    (host.accepted primitives config closed files trustFile stored incoming).Emits fun output =>
      ∀ file, output = .trustFile file →
        ∃ deviceId candidate, Remembers primitives config host incoming deviceId candidate ∧
          file = .database candidate := by
  have spared (output : HostOutput) (spares : output.SparesTrust) :
      ∀ file, output = .trustFile file →
        ∃ deviceId candidate, Remembers primitives config host incoming deviceId candidate ∧
          file = .database candidate := by
    rintro file rfl
    exact spares.elim
  refine .bind (setUpPeer_emits (fun output passes => spared output passes.sparesTrust)
    (fun connection => spared _ trivial) ?_) fun result => ?_
  · rintro attempt introduction rfl introduces accepted result store remembered changed file same
    rcases TrustStore.remember_cases remembered with rfl | ⟨candidate, candidateEq, written, _⟩
    · exact (changed rfl).elim
    · exact ⟨_, candidate, ⟨attempt, introduction, rfl, introduces, accepted, rfl, candidateEq⟩,
        (HostOutput.trustFile.inj same).symm.trans written⟩
  · obtain ⟨_ | prepared, later⟩ := result
    · simp
    · exact admitPeer_service.mono fun output service => spared output service.sparesTrust

end Host

namespace World

variable {primitives : Primitives} {config : HostConfig} {world after final : World}
  {host next : Host} {outputs : List HostOutput} {deviceId : DeviceId}

/-- No turn but that of an incoming connection writes to the trust file, however it ends. -/
theorem turn_sparesTrust {turn : LoopTurn} (other : ∀ incoming stored,
    turn ≠ .accept incoming stored)
    (turned : world.turn primitives config host turn = .ok (outputs, after)) :
    ∀ output ∈ outputs, output.SparesTrust := by
  have settled {queue : World} {resume : Host → HostPhase}
      {branch : Traced HostOutput RuntimeError Host} (service : branch.Emits HostOutput.OfService)
      (ended : queue.settle host resume branch = (outputs, after)) :
      ∀ output ∈ outputs, output.SparesTrust := by
    obtain ⟨rfl, _⟩ := Prod.mk.inj ended
    exact service.mono HostOutput.OfService.sparesTrust
  have upkeep {branch : Traced HostOutput RuntimeError Host}
      (emits : branch.Emits HostOutput.OfUpkeep) : branch.Emits HostOutput.OfService :=
    emits.mono HostOutput.OfUpkeep.service
  rcases turn_cases turned with ⟨_, ended⟩ | ⟨queue, branch, turns, ended⟩
  · exact settled (upkeep Host.stop_upkeep) ended
  · cases turns with
    | @accept incoming stored => exact (other incoming stored rfl).elim
    | capture => exact settled (upkeep Host.captured_upkeep) ended
    | takeNotice => exact settled Host.disconnected_service ended
    | takeReport => exact settled (upkeep Host.inventoryReported_upkeep) ended
    | takeForget => exact settled (upkeep Host.forgotten_upkeep) ended
    | heartbeat => exact settled (upkeep Host.heartbeat_upkeep) ended
    | takeTopology => exact settled (upkeep Host.topologyUpdated_upkeep) ended

/-- A step accepts the request of a device again. -/
def Reaccepts (primitives : Primitives) (config : HostConfig) (deviceId : DeviceId)
    (world : World) : WorldInput → Prop
  | .turn (.accept incoming _) =>
      ∃ host candidate, world.host = .running host ∧
        host.Remembers primitives config incoming deviceId candidate
  | _ => False

/-- A step keeps the trust database of the host, or remembers the device of a connection. -/
theorem step_trust {input : WorldInput}
    (stepped : world.step primitives config input = .ok (outputs, after))
    (resumed : after.host = .running next) :
    ∃ host, world.host = .running host ∧
      (next.trust = host.trust ∨
        ∃ incoming stored deviceId, input = .turn (.accept incoming stored) ∧
          host.Remembers primitives config incoming deviceId next.trust) := by
  cases input with
  | neighbour neighbour =>
      exact ⟨next, neighbourStep_host (step_neighbour stepped).1 ▸ resumed, Or.inl rfl⟩
  | turn turn =>
      obtain ⟨host, running, turned⟩ := step_turn stepped
      refine ⟨host, running, ?_⟩
      by_cases accepts : ∃ incoming stored, turn = .accept incoming stored
      · obtain ⟨incoming, stored, rfl⟩ := accepts
        obtain ⟨returned, rfl⟩ := turn_accept turned resumed
        exact (Host.accepted_trust returned).imp_right fun ⟨deviceId, remembers⟩ =>
          ⟨incoming, stored, deviceId, rfl, remembers⟩
      · obtain ⟨_, _, kept, _⟩ := turn_kept
          (fun incoming stored same => accepts ⟨incoming, stored, same⟩) turned resumed
        exact Or.inl kept.trust

/-- What a step writes to the trust file is what it remembers. -/
theorem step_writes {input : WorldInput} {file : TrustFile}
    (stepped : world.step primitives config input = .ok (outputs, after))
    (written : .trustFile file ∈ outputs) :
    ∃ host incoming stored deviceId candidate, world.host = .running host ∧
      input = .turn (.accept incoming stored) ∧
      host.Remembers primitives config incoming deviceId candidate ∧
          file = .database candidate := by
  cases input with
  | neighbour neighbour =>
      obtain ⟨_, rfl⟩ := step_neighbour stepped
      cases written
  | turn turn =>
      obtain ⟨host, running, turned⟩ := step_turn stepped
      by_cases accepts : ∃ incoming stored, turn = .accept incoming stored
      · obtain ⟨incoming, stored, rfl⟩ := accepts
        obtain ⟨rfl, _⟩ := Prod.mk.inj (Outcome.ok.inj turned)
        obtain ⟨deviceId, candidate, remembers, same⟩ := Host.accepted_writes _ written file rfl
        exact ⟨host, incoming, stored, deviceId, candidate, running, rfl, remembers, same⟩
      · exact (turn_sparesTrust (fun incoming stored same => accepts
          ⟨incoming, stored, same⟩) turned _ written).elim

/-- The trust database of the loop is well-formed. -/
def Trusting (primitives : Primitives) (world : World) : Prop :=
  ∀ host, world.host = .running host → host.trust.WellFormed primitives.sha256

theorem Trusting.step {input : WorldInput} (trusting : Trusting primitives world)
    (stepped : world.step primitives config input = .ok (outputs, after)) :
    Trusting primitives after := by
  intro next resumed
  obtain ⟨host, running, same | ⟨_, _, _, _, _, _, _, _, _, _, remembered⟩⟩ :=
    step_trust stepped resumed
  · exact same ▸ trusting host running
  · exact (trusting host running).remembering remembered

/-- A well-formed trust database of the loop that does not list a device. -/
def Forgotten (primitives : Primitives) (deviceId : DeviceId) (world : World) : Prop :=
  Trusting primitives world ∧
    ∀ host, world.host = .running host → host.trust.lists deviceId = false

/-- A trust file that lists a device or binds an endpoint to it. -/
def Names (deviceId : DeviceId) : TrustFile → Prop
  | .database database => database.lists deviceId = true ∨ database.binds deviceId = true
  | _ => False

theorem Forgotten.step {input : WorldInput} (forgotten : Forgotten primitives deviceId world)
    (stays : ¬ Reaccepts primitives config deviceId world input)
    (stepped : world.step primitives config input = .ok (outputs, after)) :
    Forgotten primitives deviceId after ∧
      ∀ output ∈ outputs, ∀ file, output = .trustFile file → ¬ Names deviceId file := by
  obtain ⟨trusting, unlisted⟩ := forgotten
  have candidate_unlisted {host : Host} {incoming : Incoming} {stored : StoredLayout}
      {other : DeviceId} {candidate : TrustDatabase} (running : world.host = .running host)
      (accepts : input = .turn (.accept incoming stored))
      (remembers : host.Remembers primitives config incoming other candidate) :
      candidate.WellFormed primitives.sha256 ∧ candidate.lists deviceId = false := by
    have distinct : other ≠ deviceId := by
      rintro rfl
      rw [accepts] at stays
      exact stays ⟨host, candidate, running, remembers⟩
    obtain ⟨_, _, _, _, _, rfl, remembered⟩ := remembers
    refine ⟨(trusting host running).remembering remembered, ?_⟩
    rw [TrustDatabase.lists_remembering remembered distinct]
    exact unlisted host running
  refine ⟨⟨trusting.step stepped, fun next resumed => ?_⟩, ?_⟩
  · obtain ⟨host, running, same | ⟨_, _, _, accepts, remembers⟩⟩ := step_trust stepped resumed
    · rw [same]
      exact unlisted host running
    · exact (candidate_unlisted running accepts remembers).2
  · rintro _ member file rfl
    obtain ⟨_, _, _, _, _, running, accepts, remembers, rfl⟩ := step_writes stepped member
    obtain ⟨wellFormed, notListed⟩ := candidate_unlisted running accepts remembers
    simp [Names, notListed, wellFormed.not_binds notListed]

/-- As long as no request of a device is accepted again, the host does not take the device for a
trusted one, and writes nothing that names it to the trust file. -/
def Effective (primitives : Primitives) (config : HostConfig) (deviceId : DeviceId)
    (world : World) : Prop :=
  ∀ inputs outputs final,
    Machine.Along (World.step primitives config)
        (fun world input => ¬ Reaccepts primitives config deviceId world input) world inputs →
      Machine.run (World.step primitives config) world inputs = .ok (outputs, final) →
        (∀ host certificate, final.host = .running host →
          primitives.sha256 certificate = deviceId →
            host.trust.trusts primitives.sha256 certificate = false) ∧
          ∀ file, .trustFile file ∈ outputs → ¬ Names deviceId file

theorem Forgotten.effective (forgotten : Forgotten primitives deviceId world) :
    Effective primitives config deviceId world := by
  intro inputs outputs final stays ran
  constructor
  · intro host certificate running digest
    have unlisted : Forgotten primitives deviceId final :=
      Machine.run_preserves_along (fun forgotten stays stepped => (forgotten.step stays stepped).1)
        forgotten stays ran
    exact TrustDatabase.not_trusts (unlisted.2 host running) digest
  · intro file written
    exact Machine.run_outputs_along Forgotten.step forgotten stays ran _ written file rfl

/-- Forgetting takes effect at once, if it does. -/
theorem Effective.untrusted {certificate : Certificate}
    (effective : Effective primitives config deviceId world) (running : world.host = .running host)
    (digest : primitives.sha256 certificate = deviceId) :
    host.trust.trusts primitives.sha256 certificate = false :=
  (effective [] [] world trivial rfl).1 host certificate running digest

/-- A host that is told to forget a device does so exactly when its own copy of the database does
not list the device. -/
theorem forget_effective_iff {loadedFile : TrustFile} {store : TrustStore}
    {direction : Option ScreenDirection} {state : TopologyState} {screens : List DetectedScreen}
    {x y : Int} {started current : Host} {initial : World} {inputs : List WorldInput}
    {stored : StoredLayout} {forgetOutputs : List HostOutput} {requests : List DeviceId}
    (loaded : TrustStore.load primitives.sha256 loadedFile = .ok store)
    (starts : Host.start primitives config direction state store.database screens x y = .ok started)
    (begins : initial.host = .running started)
    (ran : Machine.run (World.step primitives config) initial inputs = .ok (outputs, world))
    (running : world.host = .running current)
    (_queued : world.forgetRequests = deviceId :: requests)
    (taken : world.step primitives config (.turn (.takeForget stored)) = .ok (forgetOutputs, after))
    (resumed : after.host = .running next) :
    Effective primitives config deviceId after ↔ current.trust.lists deviceId = false := by
  have initially : Trusting primitives initial := by
    intro host running
    obtain rfl := HostPhase.running.inj (begins.symm.trans running)
    rw [Host.start_trust starts]
    exact TrustDatabase.wellFormed_of_load loaded
  have trusting : Trusting primitives world := Machine.run_preserves Trusting.step initially ran
  have trustingAfter : Trusting primitives after := trusting.step taken
  have kept : next.trust = current.trust := by
    obtain ⟨host, runningHost, same | ⟨_, _, _, accepts, _⟩⟩ := step_trust taken resumed
    · rw [same, HostPhase.running.inj (running.symm.trans runningHost)]
    · cases accepts
  rw [← kept]
  constructor
  · intro effective
    rw [Bool.eq_false_iff]
    intro listed
    obtain ⟨certificate, digest, trusted⟩ := (trustingAfter next resumed).exists_trusts listed
    exact Bool.false_ne_true ((effective.untrusted resumed digest).symm.trans trusted)
  · intro unlisted
    refine Forgotten.effective ⟨trustingAfter, fun host running => ?_⟩
    obtain rfl := HostPhase.running.inj (resumed.symm.trans running)
    exact unlisted

/-- A host that has started after a device was removed from the trust file forgets it. -/
theorem forget_effective_after_restart :
    ∃ started outputs after,
      sampleHost default = .ok started ∧
        ({ start started sampleFiles .absent with forgetRequests := [sampleDeviceId 1] } :
        World).step
            samplePrimitives sampleConfig (.turn (.takeForget (.ok (sampleLayout true)))) =
          .ok (outputs, after) ∧
        Effective samplePrimitives sampleConfig (sampleDeviceId 1) after := by
  have resumes : ((sampleHost default).any fun started =>
      (({ start started sampleFiles .absent with forgetRequests := [sampleDeviceId 1] } :
      World).step
          samplePrimitives sampleConfig (.turn (.takeForget (.ok (sampleLayout true))))).any
        fun result => result.2.host.runs fun _ => true) = true := by decide +kernel
  obtain ⟨started, starts, resumes⟩ := Outcome.any_eq_true.mp resumes
  obtain ⟨⟨outputs, after⟩, taken, resumes⟩ := Outcome.any_eq_true.mp resumes
  obtain ⟨next, resumed, _⟩ := HostPhase.runs_eq_true.mp resumes
  refine ⟨started, outputs, after, starts, taken, ?_⟩
  have loaded : TrustStore.load samplePrimitives.sha256 .absent =
      .ok { database := default, file := .absent } := rfl
  have unlisted : started.trust.lists (sampleDeviceId 1) = false := by
    rw [Host.start_trust starts]
    rfl
  exact (forget_effective_iff loaded starts rfl (Machine.run_nil _) rfl rfl taken
    resumed).mpr unlisted

/-- A device is removed from the trust file and the host is told to forget it; the host still takes
the device for a trusted one. -/
theorem forgotten_device_stays_trusted :
    ∃ started outputs final,
      TrustStore.load samplePrimitives.sha256 (.database sampleTrust) =
          .ok { database := sampleTrust, file := .database sampleTrust } ∧
        sampleHost sampleTrust = .ok started ∧
        Machine.run (World.step samplePrimitives sampleConfig)
            (start started sampleFiles (.database sampleTrust))
            [.neighbour (.startForget (some (sampleDeviceId 1))),
              .neighbour (.commitForget
                { target := some (sampleDeviceId 1), database := sampleTrust } none),
              .turn (.takeForget (.ok (sampleLayout true)))] =
          .ok (outputs, final) ∧
        final.trustFile = .database { sampleTrust with peers := [] } ∧
        ¬ Effective samplePrimitives sampleConfig (sampleDeviceId 1) final := by
  have trusted : ((sampleHost sampleTrust).any fun started =>
      (Machine.run (World.step samplePrimitives sampleConfig)
          (start started sampleFiles (.database sampleTrust))
          [.neighbour (.startForget (some (sampleDeviceId 1))),
            .neighbour (.commitForget
              { target := some (sampleDeviceId 1), database := sampleTrust } none),
            .turn (.takeForget (.ok (sampleLayout true)))]).any fun result =>
        result.2.host.runs fun host =>
          result.2.trustFile = .database { sampleTrust with peers := [] } ∧
            host.trust.trusts samplePrimitives.sha256 [1] = true) = true := by decide +kernel
  obtain ⟨started, starts, trusted⟩ := Outcome.any_eq_true.mp trusted
  obtain ⟨⟨outputs, final⟩, ran, trusted⟩ := Outcome.any_eq_true.mp trusted
  obtain ⟨host, resumed, trusted⟩ := HostPhase.runs_eq_true.mp trusted
  obtain ⟨gone, trusted⟩ := of_decide_eq_true trusted
  refine ⟨started, outputs, final, by decide +kernel, starts, ran, gone, fun effective => ?_⟩
  exact Bool.false_ne_true ((effective.untrusted resumed rfl).symm.trans trusted)

end World
end Rflow
