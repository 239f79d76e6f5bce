import Mathlib.Logic.Function.Basic
import Rflow.Foundation.Machine

/-!
# The management socket

Several hosts may start and stop at one path.  A host that finds a file there tries to connect to
it and removes it if nobody listens.  Only the file and what each host is at are kept: a file that
nobody listens to is stale, whoever made it.  A connection is taken to fail only if nobody listens,
and a socket to listen as soon as it is bound.
-/

namespace Rflow

open Foundation

inductive EndpointFile (Host : Type*) where
  | absent
  | stale
  /-- The socket of a host that listens. -/
  | socket (host : Host)
  deriving DecidableEq

/-- What a host is at. -/
inductive EndpointPhase where
  | idle
  /-- There is a file at the path. -/
  | found
  /-- Nobody listens there: the file is to be removed. -/
  | refused
  /-- The socket is to be bound. -/
  | clear
  /-- The socket is bound, and its permissions are to be set. -/
  | bound
  | serving
  /-- The accepting task has failed, and its listener is closed. -/
  | faulted
  /-- The accepting task has been joined: the file is to be removed. -/
  | stopped
  /-- The server is dropped: the file is to be removed. -/
  | dropping (listening : Bool)
  | ended (listening : Bool)
  deriving DecidableEq

namespace EndpointPhase

/-- The socket of the host is in place, or was put there by it and it goes on. -/
def Serves : EndpointPhase → Prop
  | bound | serving => True
  | _ => False

/-- The host may still remove what is at the path. -/
def Threatens : EndpointPhase → Prop
  | refused | bound | serving | faulted | stopped | dropping _ => True
  | _ => False

end EndpointPhase

inductive EndpointAction where
  /-- Is there a file at the path? -/
  | check
  /-- Connect to what is at the path: this tells whether somebody listens. -/
  | connect
  | remove (succeeds : Bool)
  /-- Bind the socket and listen. -/
  | bind
  /-- Set the permissions of what is at the path. -/
  | secure
  /-- The accepting task fails. -/
  | fault
  /-- Join the accepting task in a shutdown. -/
  | stop
  /-- Drop the server without a shutdown. -/
  | drop
  /-- The accepting task notices that the server is dropped. -/
  | close
  /-- Any other failure, or the end of the process. -/
  | abort
  deriving DecidableEq

structure EndpointInput (Host : Type*) where
  host : Host
  action : EndpointAction
  deriving DecidableEq

structure ManagementEndpoint (Host : Type*) where
  file : EndpointFile Host
  phase : Host → EndpointPhase

variable {Host : Type*} [DecidableEq Host]

namespace EndpointFile

/-- What is at the path once the listener of the host is closed. -/
def closed (file : EndpointFile Host) (host : Host) : EndpointFile Host :=
  if file = .socket host then .stale else file

def removed (file : EndpointFile Host) (succeeds : Bool) : EndpointFile Host :=
  if succeeds then .absent else file

end EndpointFile

/-- What a host makes of its phase and of the file. -/
def EndpointAction.act (host : Host) (file : EndpointFile Host) :
    EndpointAction → EndpointPhase → Option (EndpointPhase × EndpointFile Host)
  | check, .idle => some (if file = .absent then .clear else .found, file)
  | connect, .found =>
      match file with
      | .socket _ => some (.ended false, file)
      | _ => some (.refused, file)
  | remove succeeds, .refused =>
      some (if succeeds then .clear else .ended false, file.removed succeeds)
  | bind, .clear =>
      some (if file = .absent then (.bound, .socket host) else (.ended false, file))
  | secure, .bound =>
      if file = .absent then
        some (.ended false, file)
      else
        some (.serving, file)
  | fault, .serving => some (.faulted, file.closed host)
  | stop, .serving => some (.stopped, file.closed host)
  | stop, .faulted => some (.dropping false, file)
  | remove succeeds, .stopped => some (.dropping false, file.removed succeeds)
  | drop, .serving => some (.dropping true, file)
  | drop, .faulted => some (.dropping false, file)
  | remove succeeds, .dropping listening => some (.ended listening, file.removed succeeds)
  | close, .dropping true => some (.dropping false, file.closed host)
  | close, .ended true => some (.ended false, file.closed host)
  | abort, _ => some (.ended false, file.closed host)
  | _, _ => none

namespace ManagementEndpoint

/-- No host has started, and nobody listens to what may be at the path. -/
def start (occupied : Bool) : ManagementEndpoint Host :=
  ⟨if occupied then .stale else .absent, fun _ => .idle⟩

def step : Machine.Step (ManagementEndpoint Host) (EndpointInput Host) Empty Unit
  | endpoint, ⟨host, action⟩ =>
      match action.act host endpoint.file (endpoint.phase host) with
      | some (phase, file) => .ok ([], ⟨file, Function.update endpoint.phase host phase⟩)
      | none => .err ()

/-! ## What a step does -/

variable {endpoint next final : ManagementEndpoint Host} {input : EndpointInput Host}
  {host other : Host} {phase later : EndpointPhase} {file left : EndpointFile Host}
  {action : EndpointAction} {outputs : List Empty} {inputs : List (EndpointInput Host)}

/-- The acting host takes its action, and the phases of the others are as before. -/
theorem step_eq_ok (stepped : step endpoint ⟨host, action⟩ = .ok (outputs, next)) :
    action.act host endpoint.file (endpoint.phase host) = some (next.phase host, next.file) ∧
      ∀ other ≠ host, next.phase other = endpoint.phase other := by
  simp only [step] at stepped
  split at stepped
  · obtain ⟨-, rfl⟩ := Prod.mk.inj (Outcome.ok.inj stepped)
    refine ⟨?_, fun other different => Function.update_of_ne different _ _⟩
    simpa using ‹_›
  · cases stepped

/-- A host only comes to serve when it binds. -/
theorem act_serves (acted : action.act host file phase = some (later, left))
    (serves : later.Serves) :
    phase.Serves ∧ left = file ∨ action = .bind ∧ file = .absent ∧ left = .socket host := by
  unfold EndpointAction.act at acted
  split at acted <;> try split at acted
  all_goals cases acted
  all_goals simp_all [EndpointPhase.Serves]

/-- A host only comes to where it may remove what is at the path when it binds, or when nobody
listens. -/
theorem act_threatens (acted : action.act host file phase = some (later, left))
    (threatens : later.Threatens) :
    phase.Threatens ∨ (∀ other, file ≠ .socket other) ∧ (left = file ∨ action = .bind) := by
  unfold EndpointAction.act at acted
  split at acted <;> try split at acted
  all_goals cases acted
  all_goals simp_all [EndpointPhase.Threatens]

/-- The socket of another host stays if the acting one cannot remove anything. -/
theorem act_socket (acted : action.act other (.socket host) phase = some (later, left))
    (different : other ≠ host) (harmless : ¬ phase.Threatens) : left = .socket host := by
  have closed : (EndpointFile.socket host).closed other = .socket host := by
    simp [EndpointFile.closed, different.symm]
  unfold EndpointAction.act at acted
  split at acted <;> try split at acted
  all_goals cases acted
  all_goals simp_all [EndpointPhase.Threatens]

/-! ## Starts and stops that do not overlap -/

/-- Whoever serves does so at the path, and nobody else may remove it. -/
structure Exclusive (endpoint : ManagementEndpoint Host) : Prop where
  in_place : ∀ host, (endpoint.phase host).Serves → endpoint.file = .socket host
  alone : ∀ host other, (endpoint.phase other).Threatens → (endpoint.phase host).Serves →
    other = host

/-- A host does not bind while another one may still remove what is at the path. -/
def Apart (endpoint : ManagementEndpoint Host) (input : EndpointInput Host) : Prop :=
  input.action = .bind → endpoint.file = .absent →
    ∀ other ≠ input.host, ¬ (endpoint.phase other).Threatens

theorem Exclusive.kept (exclusive : endpoint.Exclusive) (apart : endpoint.Apart input)
    (stepped : step endpoint input = .ok (outputs, next)) : next.Exclusive := by
  obtain ⟨acting, action⟩ := input
  obtain ⟨acted, same⟩ := step_eq_ok stepped
  -- A host that serves and does not act keeps its socket.
  have stays {host : Host} (different : host ≠ acting) (serves : (next.phase host).Serves) :
      (endpoint.phase host).Serves ∧ endpoint.file = .socket host ∧
        ¬ (endpoint.phase acting).Threatens := by
    rw [same host different] at serves
    exact ⟨serves, exclusive.in_place host serves,
      fun threatens => different (exclusive.alone host acting threatens serves).symm⟩
  constructor
  · intro host serves
    by_cases acts : host = acting
    · subst acts
      obtain ⟨served, kept⟩ | ⟨-, -, bound⟩ := act_serves acted serves
      · exact kept.trans (exclusive.in_place host served)
      · exact bound
    · obtain ⟨-, socket, harmless⟩ := stays acts serves
      rw [socket] at acted
      exact act_socket acted (Ne.symm acts) harmless
  · intro host other threatens serves
    by_cases acts : host = acting
    · subst acts
      by_contra different
      rw [same other different] at threatens
      obtain ⟨served, -⟩ | ⟨bind, absent, -⟩ := act_serves acted serves
      · exact different (exclusive.alone host other threatens served)
      · exact apart bind absent other different threatens
    · obtain ⟨served, socket, harmless⟩ := stays acts serves
      by_cases moves : other = acting
      · subst moves
        obtain threatened | ⟨unserved, -⟩ := act_threatens acted threatens
        · exact absurd threatened harmless
        · exact absurd socket (unserved host)
      · rw [same other moves] at threatens
        exact exclusive.alone host other threatens served

omit [DecidableEq Host] in
theorem exclusive_start {occupied : Bool} :
    (start occupied : ManagementEndpoint Host).Exclusive where
  in_place _ serves := serves.elim
  alone _ _ threatens _ := threatens.elim

/-- However the hosts interleave: as long as none binds while another one may still remove what is
at the path, at most one host serves, and it does so at the path. -/
theorem one_host_serves {occupied : Bool}
    (apart : Machine.Along step Apart (start occupied) inputs)
    (ran : Machine.run step (start occupied) inputs = .ok (outputs, final))
    (serves : (final.phase host).Serves) :
    final.file = .socket host ∧ ∀ other, (final.phase other).Serves → other = host := by
  have exclusive : final.Exclusive :=
    Machine.run_preserves_along Exclusive.kept exclusive_start apart ran
  have socket := exclusive.in_place host serves
  refine ⟨socket, fun other more => ?_⟩
  exact EndpointFile.socket.inj ((exclusive.in_place other more).symm.trans socket)

/-- A second host finds the socket of the first one. -/
def sampleStarts : List (EndpointInput Bool) :=
  [⟨false, .check⟩, ⟨true, .check⟩, ⟨false, .connect⟩, ⟨false, .remove true⟩, ⟨false, .bind⟩,
    ⟨true, .connect⟩, ⟨false, .secure⟩]

theorem one_host_serves_twice :
    ∃ final, Machine.run step (start true) sampleStarts = .ok ([], final) ∧
      final.file = .socket false ∧ ∀ other, (final.phase other).Serves → other = false := by
  have apart : Machine.Along step Apart (start true) sampleStarts := by
    simp [sampleStarts, Machine.Along, Apart, step, start, EndpointAction.act,
      EndpointPhase.Threatens]
  obtain ⟨final, ran, serves⟩ : ∃ final,
      Machine.run step (start true) sampleStarts = .ok ([], final) ∧
        (final.phase false).Serves := ⟨_, rfl, trivial⟩
  exact ⟨final, ran, one_host_serves apart ran serves⟩

/-! ## Whether a host keeps its socket -/

/-- What the other hosts do can take the host its socket. -/
def Loses (endpoint : ManagementEndpoint Host) (host : Host) : Prop :=
  ∃ inputs outputs final, (∀ input ∈ inputs, input.host ≠ host) ∧
    Machine.run step endpoint inputs = .ok (outputs, final) ∧ final.file ≠ .socket host

theorem Loses.after (loses : next.Loses host) (different : input.host ≠ host)
    (stepped : step endpoint input = .ok (outputs, next)) : endpoint.Loses host := by
  obtain ⟨inputs, more, final, others, ran, lost⟩ := loses
  exact ⟨input :: inputs, outputs ++ more, final, List.forall_mem_cons.mpr ⟨different, others⟩,
    Machine.run_cons_eq_ok.mpr ⟨_, _, _, stepped, ran, rfl⟩, lost⟩

theorem Loses.of_remove (different : other ≠ host)
    (removes : (endpoint.phase other) = .refused ∨ endpoint.phase other = .stopped ∨
      ∃ listening, endpoint.phase other = .dropping listening) : endpoint.Loses host := by
  obtain ⟨next, stepped, absent⟩ : ∃ next : ManagementEndpoint Host,
      step endpoint ⟨other, .remove true⟩ = .ok ([], next) ∧ next.file = .absent := by
    obtain phase | phase | ⟨listening, phase⟩ := removes <;>
      exact ⟨_, by simp only [step, phase, EndpointAction.act]; rfl, rfl⟩
  refine ⟨[⟨other, .remove true⟩], [], next, by simpa using different,
    Machine.run_singleton_eq_ok.mpr stepped, by simp [absent]⟩

theorem Loses.of_serving (different : other ≠ host) (serving : endpoint.phase other = .serving) :
    endpoint.Loses host := by
  have stepped : step endpoint ⟨other, .stop⟩ =
      .ok ([], ⟨endpoint.file.closed other, Function.update endpoint.phase other .stopped⟩) := by
    simp only [step, serving, EndpointAction.act]
  exact (Loses.of_remove different (.inr (.inl (by simp)))).after different stepped

/-- The socket of a host is in place, and nobody else may remove it. -/
structure Undisputed (host : Host) (endpoint : ManagementEndpoint Host) : Prop where
  socket : endpoint.file = .socket host
  harmless : ∀ other ≠ host, ¬ (endpoint.phase other).Threatens

theorem Undisputed.kept (undisputed : endpoint.Undisputed host) (different : input.host ≠ host)
    (stepped : step endpoint input = .ok (outputs, next)) : next.Undisputed host := by
  obtain ⟨acting, action⟩ := input
  obtain ⟨socket, harmless⟩ := undisputed
  obtain ⟨acted, same⟩ := step_eq_ok stepped
  rw [socket] at acted
  refine ⟨act_socket acted different (harmless acting different), fun other others => ?_⟩
  by_cases acts : other = acting
  · subst acts
    intro threatens
    obtain threatened | ⟨unserved, -⟩ := act_threatens acted threatens
    · exact harmless other others threatened
    · exact unserved host rfl
  · rw [same other acts]
    exact harmless other others

/-- The other hosts can take a host its socket exactly if one of them serves as well, or is still to
remove what it found or what it left. -/
theorem socket_lost_iff (socket : endpoint.file = .socket host) :
    endpoint.Loses host ↔ ∃ other ≠ host, (endpoint.phase other).Threatens := by
  constructor
  · rintro ⟨inputs, outputs, final, others, ran, lost⟩
    by_contra harmless
    push Not at harmless
    have kept : final.Undisputed host :=
      Machine.run_preserves_on Undisputed.kept ⟨socket, harmless⟩ others ran
    exact lost kept.socket
  · rintro ⟨other, different, threatens⟩
    cases phase : endpoint.phase other with
    | idle | found | clear | ended _ => simp [phase, EndpointPhase.Threatens] at threatens
    | refused => exact .of_remove different (.inl phase)
    | stopped => exact .of_remove different (.inr (.inl phase))
    | dropping listening => exact .of_remove different (.inr (.inr ⟨listening, phase⟩))
    | serving => exact .of_serving different phase
    | bound =>
        have stepped : step endpoint ⟨other, .secure⟩ =
            .ok ([], ⟨endpoint.file, Function.update endpoint.phase other .serving⟩) := by
          simp [step, phase, EndpointAction.act, socket]
        exact (Loses.of_serving different (by simp)).after different stepped
    | faulted =>
        have stepped : step endpoint ⟨other, .stop⟩ =
            .ok ([], ⟨endpoint.file, Function.update endpoint.phase other (.dropping false)⟩) := by
          simp only [step, phase, EndpointAction.act]
        exact (Loses.of_remove different (.inr (.inr ⟨false, by simp⟩))).after different stepped

/-- Two hosts find the same stale file, and one of them serves before the other removes it. -/
def sampleRace : List (EndpointInput Bool) :=
  [⟨false, .check⟩, ⟨true, .check⟩, ⟨false, .connect⟩, ⟨true, .connect⟩, ⟨false, .remove true⟩,
    ⟨false, .bind⟩, ⟨false, .secure⟩]

theorem socket_lost_iff_race :
    ∃ final, Machine.run step (start true) sampleRace = .ok ([], final) ∧
      final.phase false = .serving ∧ final.Loses false := by
  obtain ⟨final, ran, serving, refused, socket⟩ : ∃ final,
      Machine.run step (start true) sampleRace = .ok ([], final) ∧ final.phase false = .serving ∧
        final.phase true = .refused ∧ final.file = .socket false := ⟨_, rfl, rfl, rfl, rfl⟩
  have lost : final.Loses false :=
    (socket_lost_iff socket).mpr ⟨true, by simp, by simp [refused, EndpointPhase.Threatens]⟩
  exact ⟨final, ran, serving, lost⟩

end ManagementEndpoint
end Rflow
