import Rflow.Runtime.Statuses

/-!
# Capture while the user is asked

The host captures its input devices from its first peer on.  The wait for a pairing decision is part
of a branch of the same loop, so whoever is asked about after the first peer is asked about under
capture.
-/

namespace Rflow

open Foundation

namespace Host

variable {primitives : Primitives} {config : HostConfig} {closed : Finset Nat} {host next : Host}
  {outputs : List HostOutput} {files : TopologyFiles} {trustFile : TrustFile}
  {stored : StoredLayout}
  {incoming : Incoming}

/-- The accept branch starts the capture when it admits a peer, and leaves it alone otherwise. -/
theorem accepted_capturing
    (returned : (host.accepted primitives config closed files trustFile stored incoming).Returns
      outputs next) :
    (SetsUp primitives config host trustFile incoming ∧ next.capturing = true) ∨
      ¬ SetsUp primitives config host trustFile incoming ∧ next.capturing = host.capturing := by
  simp only [accepted, Traced.returns_bind] at returned
  obtain ⟨_, ⟨prepared, middle⟩, _, setUp, branch, _⟩ := returned
  cases prepared with
  | none =>
      obtain ⟨_, rfl⟩ := Traced.returns_pure.mp branch
      refine Or.inr ⟨?_, (setUpPeer_sameService setUp.2).capturing⟩
      rintro ⟨prepared, later, done⟩
      cases setUp.2.symm.trans done
  | some prepared =>
      exact Or.inl ⟨⟨prepared, middle, setUp.2⟩, (admitPeer_returns branch).capturing⟩

end Host

namespace World

section Conditions

variable (primitives : Primitives) (config : HostConfig)

/-- The turn waits for the decision of the user about a device. -/
def AsksUser (world : World) (input : WorldInput) : Prop :=
  ∃ host attempt stored introduction, world.host = .running host ∧
    input = .turn (.accept (.connected attempt) stored) ∧
    Introduces primitives config attempt introduction ∧
    Host.Asks primitives attempt host.trust host.limiter introduction

/-- The turn completes the setup of a peer. -/
def AdmitsPeer (world : World) (input : WorldInput) : Prop :=
  ∃ host incoming stored, world.host = .running host ∧ input = .turn (.accept incoming stored) ∧
    Host.SetsUp primitives config host world.trustFile incoming

end Conditions

/-- The loop does not capture the input devices. -/
def Uncaptured (world : World) : Prop := ∀ host, world.host = .running host → host.capturing = false

/-- The loop captures the input devices, if it goes on. -/
def Captured (world : World) : Prop := ∀ host, world.host = .running host → host.capturing = true

variable {primitives : Primitives} {config : HostConfig} {world after : World} {input : WorldInput}
  {outputs : List HostOutput}

/-- A step that goes on captures from the first peer on. -/
theorem step_capturing {next : Host}
    (stepped : world.step primitives config input = .ok (outputs, after))
    (resumed : after.host = .running next) :
    ∃ host, world.host = .running host ∧
      ((AdmitsPeer primitives config world input ∧ next.capturing = true) ∨
        ¬ AdmitsPeer primitives config world input ∧ next.capturing = host.capturing) := by
  have quiet (other : ∀ incoming stored, input ≠ .turn (.accept incoming stored)) :
      ¬ AdmitsPeer primitives config world input := by
    rintro ⟨_, incoming, stored, _, same, _⟩
    exact other incoming stored same
  cases input with
  | neighbour neighbour =>
      have running := neighbourStep_host (step_neighbour stepped).1 ▸ resumed
      exact ⟨next, running, Or.inr ⟨quiet (by simp), rfl⟩⟩
  | turn turn =>
      obtain ⟨host, running, turned⟩ := step_turn stepped
      refine ⟨host, running, ?_⟩
      by_cases accepts : ∃ incoming stored, turn = .accept incoming stored
      · obtain ⟨incoming, stored, rfl⟩ := accepts
        have admits_iff : AdmitsPeer primitives config world (.turn (.accept incoming stored)) ↔
            Host.SetsUp primitives config host world.trustFile incoming := by
          constructor
          · rintro ⟨other, _, _, again, same, setsUp⟩
            obtain ⟨rfl, rfl⟩ := LoopTurn.accept.inj (WorldInput.turn.inj same)
            exact HostPhase.running.inj (running.symm.trans again) ▸ setsUp
          · exact fun setsUp => ⟨host, incoming, stored, running, rfl, setsUp⟩
        rw [admits_iff]
        exact Host.accepted_capturing (turn_accept turned resumed).1
      · have other (incoming : Incoming) (stored : StoredLayout) : turn ≠ .accept incoming stored :=
          fun same => accepts ⟨incoming, stored, same⟩
        obtain ⟨_, _, kept, _⟩ := turn_kept other turned resumed
        refine Or.inr ⟨quiet fun incoming stored same => ?_, kept.capturing⟩
        exact other incoming stored (WorldInput.turn.inj same)

theorem AsksUser.exclusive (asks : AsksUser primitives config world input)
    (captured : Captured world) : ¬ Uncaptured world := by
  intro uncaptured
  obtain ⟨host, _, _, _, running, _⟩ := asks
  cases (uncaptured host running).symm.trans (captured host running)

theorem AdmitsPeer.captured (admits : AdmitsPeer primitives config world input)
    (stepped : world.step primitives config input = .ok (outputs, after)) : Captured after := by
  intro next resumed
  obtain ⟨_, _, ⟨_, capturing⟩ | ⟨spared, _⟩⟩ := step_capturing stepped resumed
  · exact capturing
  · exact absurd admits spared

theorem Captured.step (captured : Captured world)
    (stepped : world.step primitives config input = .ok (outputs, after)) : Captured after := by
  intro next resumed
  obtain ⟨host, running, ⟨_, capturing⟩ | ⟨_, same⟩⟩ := step_capturing stepped resumed
  · exact capturing
  · exact same.trans (captured host running)

theorem Uncaptured.step (uncaptured : Uncaptured world)
    (spared : ¬ AdmitsPeer primitives config world input)
    (stepped : world.step primitives config input = .ok (outputs, after)) : Uncaptured after := by
  intro next resumed
  obtain ⟨host, running, ⟨admits, _⟩ | ⟨_, same⟩⟩ := step_capturing stepped resumed
  · exact absurd admits spared
  · exact same.trans (uncaptured host running)

/-- In every run of a host the input devices are not captured while the user is asked about a
device, exactly when nobody is asked about after a peer has been set up. -/
theorem uncaptured_while_asked_iff {direction : Option ScreenDirection} {state : TopologyState}
    {trust : TrustDatabase} {screens : List DetectedScreen} {x y : Int} {host : Host}
    {files : TopologyFiles} {trustFile : TrustFile} {inputs : List WorldInput}
    (starts : Host.start primitives config direction state trust screens x y = .ok host) :
    Machine.Along (World.step primitives config)
        (fun world input => AsksUser primitives config world input → Uncaptured world)
        (start host files trustFile) inputs ↔
      Machine.NeverAfter (World.step primitives config) (AdmitsPeer primitives config)
        (AsksUser primitives config) (start host files trustFile) inputs := by
  have uncaptured : Uncaptured (start host files trustFile) := by
    intro other began
    rw [← HostPhase.running.inj began]
    exact Host.start_capturing starts
  refine @Machine.along_iff_neverAfter _ _ _ _ _ _ _ Uncaptured Captured ?_ ?_ ?_ ?_ _ _ uncaptured
  · exact AsksUser.exclusive
  · exact AdmitsPeer.captured
  · exact Captured.step
  · exact Uncaptured.step

/-- The first device that connects is unknown: the user is asked about it, without capture. -/
theorem uncaptured_while_first_asked :
    ∃ started, sampleHost default = .ok started ∧
      AsksUser samplePrimitives sampleConfig (start started sampleFiles .absent)
        (sampleAccept (sampleConnection 0 24801)) ∧
      Machine.Along (World.step samplePrimitives sampleConfig)
        (fun world input => AsksUser samplePrimitives sampleConfig world input → Uncaptured world)
        (start started sampleFiles .absent) [sampleAccept (sampleConnection 0 24801)] := by
  have asks : ((sampleHost default).any fun started =>
      started.trust.trusts samplePrimitives.sha256 [1] = false ∧
        (started.limiter.allow (.v4 1) 0).1 = true) = true := by decide +kernel
  obtain ⟨started, starts, asks⟩ := Outcome.any_eq_true.mp asks
  obtain ⟨introduction, introduced, certificate⟩ : ∃ introduction,
    (introduce samplePrimitives sampleConfig
      (sampleAttempt (sampleConnection 0 24801) [])).outcome =
        .ok (some introduction) ∧ introduction.client.certificate = [1] := ⟨_, rfl, rfl⟩
  refine ⟨started, starts, ⟨started, _, _, introduction, rfl, rfl,
    introduce_eq_some.mp introduced, ?_⟩,
    (uncaptured_while_asked_iff starts).mpr fun _ _ _ => ⟨fun _ => trivial, trivial⟩⟩
  rw [Host.Asks, certificate]
  exact of_decide_eq_true asks

/-- The encodings of two devices. -/
def twoDevicePrimitives : Primitives where
  sha256 := samplePrimitives.sha256
  pairing :=
    { encode := fun _ => []
      decode
        | [3] => some (.hello 1 .client "phone" [] (sampleDeviceId 3))
        | bytes => samplePrimitives.pairing.decode bytes }
  reliable := samplePrimitives.reliable

/-- The second device on the second connection; nobody answers its request. -/
def secondAttempt : Attempt :=
  { sampleAttempt (sampleConnection 1 24802) [] with
    identity := .chain [[3]]
    pairingStream := .opened { bytes := [0, 0, 0, 1, 3], ended := false } }

/-- A trusted device connects; then the user is asked about another one while the input devices are
captured. -/
theorem captured_while_second_asked :
    ∃ started, Host.start twoDevicePrimitives sampleConfig none sampleState
        sampleTrust sampleScreens 50 50 = .ok started ∧
      ¬ Machine.Along (World.step twoDevicePrimitives sampleConfig)
        (fun world input => AsksUser twoDevicePrimitives sampleConfig world input →
            Uncaptured world)
        (start started sampleFiles (.database sampleTrust))
        [sampleAccept (sampleConnection 0 24801),
          .turn (.accept (.connected secondAttempt) (.ok (sampleLayout true)))] := by
  have asks : ((Host.start twoDevicePrimitives sampleConfig none sampleState
      sampleTrust sampleScreens 50 50).any fun started =>
        ((start started sampleFiles (.database sampleTrust)).step twoDevicePrimitives sampleConfig
          (sampleAccept (sampleConnection 0 24801))).any fun result =>
            result.2.host.runs fun host => host.capturing = true ∧
              host.trust.trusts twoDevicePrimitives.sha256 [3] = false ∧
                (host.limiter.allow (.v4 1) 0).1 = true) = true := by decide +kernel
  obtain ⟨started, starts, asks⟩ := Outcome.any_eq_true.mp asks
  obtain ⟨⟨outputs, connected⟩, stepped, asks⟩ := Outcome.any_eq_true.mp asks
  obtain ⟨host, running, asks⟩ := HostPhase.runs_eq_true.mp asks
  obtain ⟨capturing, asks⟩ := of_decide_eq_true asks
  obtain ⟨introduction, introduced, certificate⟩ : ∃ introduction,
      (introduce twoDevicePrimitives sampleConfig secondAttempt).outcome = .ok (some introduction) ∧
        introduction.client.certificate = [3] := ⟨_, rfl, rfl⟩
  refine ⟨started, starts, fun along => ?_⟩
  obtain ⟨_, uncaptured, _⟩ := (Machine.along_cons stepped).mp along
  have asked : AsksUser twoDevicePrimitives sampleConfig connected
      (.turn (.accept (.connected secondAttempt) (.ok (sampleLayout true)))) := by
    refine ⟨host, _, _, introduction, running, rfl, introduce_eq_some.mp introduced, ?_⟩
    rw [Host.Asks, certificate]
    exact asks
  cases (uncaptured asked host running).symm.trans capturing

end World
end Rflow
