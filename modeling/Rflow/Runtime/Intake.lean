import Rflow.Runtime.HostSteps

/-!
# What an incoming connection does to the host

The accept branch sets a peer up inside the loop, and propagates what goes wrong there.  A
connection whose setup does not complete leaves the service alone exactly when the branch turns it
away itself.
-/

namespace Rflow

open Foundation

/-- The accept branch turns a connection away: the host is stopped, or an unknown device introduces
itself correctly and is refused. -/
def TurnedAway (primitives : Primitives) (config : HostConfig) (host : Host) : Incoming → Prop
  | .connected attempt =>
      StoppedFirst attempt ∨
        ∃ introduction, Introduces primitives config attempt introduction ∧
          Refused primitives host.trust host.limiter attempt introduction
  | _ => False

namespace Host

variable {primitives : Primitives} {config : HostConfig}

theorem setUpPeer_eq_none {host : Host} {trustFile : TrustFile} {incoming : Incoming} :
    (∃ next, (host.setUpPeer primitives config trustFile incoming).outcome = .ok (none, next)) ↔
      TurnedAway primitives config host incoming := by
  cases incoming with
  | endpointClosed => simp [setUpPeer, acceptOne, TurnedAway]
  | handshakeFailed => simp [setUpPeer, acceptOne, TurnedAway]
  | connected attempt =>
      have none_iff : (∃ database left, (authorizeHostPeer primitives config attempt
          { database := host.trust, file := trustFile } host.limiter).outcome =
            .ok (none, database, left)) ↔ TurnedAway primitives config host (.connected attempt) :=
        authorizeHostPeer_eq_none
      rw [← none_iff]
      simp only [setUpPeer, acceptOne, Traced.bind_outcome, Traced.lift_outcome, Outcome.ok_bind,
        Outcome.bind_eq_ok]
      constructor
      · rintro ⟨next, ⟨_ | authorized, database, left⟩, decided, done⟩
        · exact ⟨database, left, decided⟩
        · simp [Outcome.bind_eq_ok] at done
      · rintro ⟨database, left, decided⟩
        exact ⟨{ host with trust := database, limiter := left }, _, decided, rfl⟩

end Host

namespace World

variable {primitives : Primitives} {config : HostConfig}

/-- An incoming connection whose setup does not complete leaves the loop running with the same
peers, session, topology and inventory exactly when the accept branch turns it away. -/
theorem accept_contained_iff {world : World} {host : Host} {incoming : Incoming}
    {stored : StoredLayout} (running : world.host = .running host)
    (incomplete : ¬ host.SetsUp primitives config world.trustFile incoming) :
    (∃ outputs after next,
        world.step primitives config (.turn (.accept incoming stored)) = .ok (outputs, after) ∧
          after.host = .running next ∧ host.SameService next) ↔
      TurnedAway primitives config host incoming := by
  have none_iff : (∃ next, (host.setUpPeer primitives config world.trustFile incoming).outcome =
      .ok (none, next)) ↔ TurnedAway primitives config host incoming := Host.setUpPeer_eq_none
  rw [← none_iff]
  simp only [step, turn, running, settle, Outcome.ok.injEq, Prod.mk.injEq]
  constructor
  · rintro ⟨_, _, next, ⟨rfl, rfl⟩, resumed, _⟩
    rcases ended : (host.setUpPeer primitives config world.trustFile incoming).outcome with
      ⟨_ | prepared, later⟩ | error | message
    · exact ⟨later, rfl⟩
    · exact absurd ⟨prepared, later, ended⟩ incomplete
    · simp [Host.accepted, ended, afterBranch] at resumed
    · simp [Host.accepted, ended, afterBranch] at resumed
  · rintro ⟨next, turnedAway⟩
    exact ⟨_, _, next, ⟨rfl, rfl⟩, by simp [Host.accepted, turnedAway, afterBranch],
      Host.setUpPeer_sameService turnedAway⟩

/-- An unknown device whose request expires is turned away, and the loop goes on as before. -/
theorem accept_contained_expired :
    ∃ host, sampleHost default = .ok host ∧
      ∃ outputs after next,
        (World.start host sampleFiles .absent).step samplePrimitives sampleConfig
            (.turn (.accept (.connected (sampleAttempt (sampleConnection 0 50000) [.deadline]))
              (.ok (sampleLayout true)))) =
          .ok (outputs, after) ∧
          after.host = .running next ∧ host.SameService next := by
  have unprepared : ((sampleHost default).any fun host =>
      (host.setUpPeer samplePrimitives sampleConfig .absent
        (.connected (sampleAttempt (sampleConnection 0 50000) [.deadline]))).outcome.any
            fun result =>
          result.1.isNone) = true := by decide +kernel
  obtain ⟨host, started, unprepared⟩ := Outcome.any_eq_true.mp unprepared
  obtain ⟨⟨prepared, later⟩, done, isNone⟩ := Outcome.any_eq_true.mp unprepared
  obtain rfl : prepared = none := Option.isNone_iff_eq_none.mp isNone
  have running : (World.start host sampleFiles .absent).host = .running host := rfl
  have incomplete : ¬ host.SetsUp samplePrimitives sampleConfig
      (World.start host sampleFiles .absent).trustFile
      (.connected (sampleAttempt (sampleConnection 0 50000) [.deadline])) := by
    rintro ⟨prepared, other, again⟩
    cases done.symm.trans again
  have turnedAway : TurnedAway samplePrimitives sampleConfig host
      (.connected (sampleAttempt (sampleConnection 0 50000) [.deadline])) :=
    Host.setUpPeer_eq_none.mp ⟨later, done⟩
  exact ⟨host, started, (accept_contained_iff running incomplete).mpr turnedAway⟩

/-- A failed handshake of one connection ends the loop. -/
theorem failed_handshake_ends_loop :
    ¬ ∀ (world : World) (host : Host) (incoming : Incoming) (stored : StoredLayout),
      world.host = .running host →
      ¬ host.SetsUp samplePrimitives sampleConfig world.trustFile incoming →
      ∃ outputs after next,
        world.step samplePrimitives sampleConfig (.turn (.accept incoming stored)) =
          .ok (outputs, after) ∧
          after.host = .running next ∧ host.SameService next := by
  intro contained
  obtain ⟨host, _, _⟩ := Outcome.any_eq_true.mp
    (by decide +kernel : (sampleHost default).any (fun _ => true) = true)
  have incomplete : ¬ host.SetsUp samplePrimitives sampleConfig .absent .handshakeFailed := by
    rintro ⟨prepared, next, done⟩
    simp [Host.setUpPeer, acceptOne] at done
  obtain ⟨outputs, after, next, stepped, resumed, _⟩ :=
    contained (World.start host sampleFiles .absent) host .handshakeFailed
      (.ok (sampleLayout true)) rfl incomplete
  simp only [step, World.start, turn, settle, Outcome.ok.injEq, Prod.mk.injEq] at stepped
  obtain ⟨_, rfl⟩ := stepped
  simp [Host.accepted, Host.setUpPeer, acceptOne, afterBranch] at resumed

end World
end Rflow
