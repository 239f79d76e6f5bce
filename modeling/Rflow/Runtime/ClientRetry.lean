import Rflow.Foundation.Machine
import Rflow.Core.Numeric
import Rflow.Runtime.Events

/-!
# Retries of the client

A client whose session ends with an error connects again a second later, for as long as it is told
to.  Times are those of a monotonic clock, in nanoseconds.
-/

namespace Rflow

open Foundation

/-- The pause before another attempt, one second. -/
def retryDelay : Nat := 1000000000

/-- Largest `u32`. -/
def u32Max : Nat := 4294967295

inductive RetryPhase where
  /-- At the head of the loop. -/
  | starting
  | connecting
  /-- The session has ended with an error. -/
  | failed (error : RuntimeError)
  /-- There is to be another attempt. -/
  | retrying (error : RuntimeError)
  | sleeping (error : RuntimeError) (wakeAt : Nat)
  | ended (result : Option RuntimeError)
  deriving DecidableEq

structure ClientRetry where
  deadline : Option Nat
  now : Nat
  attempt : Nat
  phase : RetryPhase
  deriving DecidableEq

inductive RetryInput where
  | elapse (nanoseconds : Nat)
  | connect
  /-- The session ends, with an error or without. -/
  | finish (error : Option RuntimeError)
  /-- The client looks whether the deadline has passed. -/
  | check
  /-- The client goes to sleep. -/
  | sleep
  | wake
  /-- The client is told to stop while it sleeps. -/
  | stop
  deriving DecidableEq

inductive RetryOutput where
  /-- An attempt begins, with its number and the time. -/
  | connectionAttempt (attempt time : Nat)
  | notify (event : AppEvent)
  deriving DecidableEq

namespace ClientRetry

/-- The client before its first attempt, with the time it may spend on retries. -/
def start (now : Nat) (retryFor : Option Nat) : ClientRetry where
  deadline := retryFor.map (now + ·)
  now
  attempt := 0
  phase := .starting

/-- How long the client sleeps. -/
def delay (client : ClientRetry) : Nat :=
  match client.deadline with
  | some deadline => min retryDelay (deadline - client.now)
  | none => retryDelay

def step : Machine.Step ClientRetry RetryInput RetryOutput Unit
  -- The client does not wait between its look at the clock and the next attempt.
  | client, .elapse nanoseconds =>
      if client.phase = .starting then
        .err ()
      else
        .ok ([], { client with now := client.now + nanoseconds })
  | client, .connect =>
      match client.phase with
      | .starting =>
          let attempt := min (client.attempt + 1) u32Max
          .ok ([.connectionAttempt attempt client.now, .notify (.statusChanged .connecting)],
            { client with attempt, phase := .connecting })
      | _ => .err ()
  | client, .finish error =>
      match client.phase, error with
      | .connecting, some error => .ok ([], { client with phase := .failed error })
      | .connecting, none => .ok ([], { client with phase := .ended none })
      | _, _ => .err ()
  | client, .check =>
      match client.phase with
      | .failed error =>
          if client.deadline.all fun deadline => client.now < deadline then
            .ok ([.notify (.peerChanged none), .notify (.statusChanged .retrying)],
              { client with phase := .retrying error })
          else
            .ok ([], { client with phase := .ended (some error) })
      | _ => .err ()
  | client, .sleep =>
      match client.phase with
      | .retrying error =>
          .ok ([], { client with phase := .sleeping error (client.now + client.delay) })
      | _ => .err ()
  | client, .wake =>
      match client.phase with
      | .sleeping error wakeAt =>
          if wakeAt ≤ client.now then
            if client.deadline.any fun deadline => deadline ≤ client.now then
              .ok ([], { client with phase := .ended (some error) })
            else
              .ok ([], { client with phase := .starting })
          else
            .err ()
      | _ => .err ()
  | client, .stop =>
      match client.phase with
      | .sleeping _ _ => .ok ([], { client with phase := .ended none })
      | _ => .err ()

/-! ## What an input does -/

variable {client next : ClientRetry} {input : RetryInput} {outputs : List RetryOutput}

inductive Steps (client : ClientRetry) : RetryInput → List RetryOutput → ClientRetry → Prop
  | elapsed {nanoseconds : Nat} (waits : client.phase ≠ .starting) :
      Steps client (.elapse nanoseconds) [] { client with now := client.now + nanoseconds }
  | connected (starting : client.phase = .starting) :
      Steps client .connect
        [.connectionAttempt (min (client.attempt + 1) u32Max) client.now,
          .notify (.statusChanged .connecting)]
        { client with attempt := min (client.attempt + 1) u32Max, phase := .connecting }
  | failed {error : RuntimeError} (connecting : client.phase = .connecting) :
      Steps client (.finish (some error)) [] { client with phase := .failed error }
  | finished (connecting : client.phase = .connecting) :
      Steps client (.finish none) [] { client with phase := .ended none }
  | retried {error : RuntimeError} (failed : client.phase = .failed error)
      (early : ∀ deadline ∈ client.deadline, client.now < deadline) :
      Steps client .check [.notify (.peerChanged none), .notify (.statusChanged .retrying)]
        { client with phase := .retrying error }
  | gaveUp {error : RuntimeError} {deadline : Nat} (failed : client.phase = .failed error)
      (limited : client.deadline = some deadline) (late : deadline ≤ client.now) :
      Steps client .check [] { client with phase := .ended (some error) }
  | slept {error : RuntimeError} (retrying : client.phase = .retrying error) :
      Steps client .sleep [] { client with phase := .sleeping error (client.now + client.delay) }
  | wokeLate {error : RuntimeError} {wakeAt deadline : Nat}
      (sleeping : client.phase = .sleeping error wakeAt) (rested : wakeAt ≤ client.now)
      (limited : client.deadline = some deadline) (late : deadline ≤ client.now) :
      Steps client .wake [] { client with phase := .ended (some error) }
  | woke {error : RuntimeError} {wakeAt : Nat} (sleeping : client.phase = .sleeping error wakeAt)
      (rested : wakeAt ≤ client.now) (early : ∀ deadline ∈ client.deadline, client.now < deadline) :
      Steps client .wake [] { client with phase := .starting }
  | stopped {error : RuntimeError} {wakeAt : Nat}
      (sleeping : client.phase = .sleeping error wakeAt) :
      Steps client .stop [] { client with phase := .ended none }

theorem step_steps (stepped : client.step input = .ok (outputs, next)) :
    client.Steps input outputs next := by
  cases input with
  | elapse nanoseconds =>
      simp only [step] at stepped
      split_ifs at stepped with starting
      obtain ⟨rfl, rfl⟩ := Prod.mk.inj (Outcome.ok.inj stepped)
      exact .elapsed starting
  | connect =>
      simp only [step] at stepped
      split at stepped
      · obtain ⟨rfl, rfl⟩ := Prod.mk.inj (Outcome.ok.inj stepped)
        exact .connected ‹_›
      · cases stepped
  | finish error =>
      simp only [step] at stepped
      split at stepped
      · obtain ⟨rfl, rfl⟩ := Prod.mk.inj (Outcome.ok.inj stepped)
        exact .failed ‹_›
      · obtain ⟨rfl, rfl⟩ := Prod.mk.inj (Outcome.ok.inj stepped)
        exact .finished ‹_›
      · cases stepped
  | check =>
      simp only [step] at stepped
      split at stepped
      · rename_i error failed
        split_ifs at stepped with early
        · obtain ⟨rfl, rfl⟩ := Prod.mk.inj (Outcome.ok.inj stepped)
          refine .retried failed fun deadline limit => ?_
          exact of_decide_eq_true ((Option.all_eq_true ..).mp early deadline limit)
        · obtain ⟨rfl, rfl⟩ := Prod.mk.inj (Outcome.ok.inj stepped)
          simp only [Option.all_eq_true, decide_eq_true_eq, not_forall, not_lt] at early
          obtain ⟨deadline, limit, late⟩ := early
          exact .gaveUp failed limit late
      · cases stepped
  | sleep =>
      simp only [step] at stepped
      split at stepped
      · obtain ⟨rfl, rfl⟩ := Prod.mk.inj (Outcome.ok.inj stepped)
        exact .slept ‹_›
      · cases stepped
  | wake =>
      simp only [step] at stepped
      split at stepped
      · rename_i error wakeAt sleeping
        split at stepped
        · rename_i rested
          split_ifs at stepped with late
          · obtain ⟨rfl, rfl⟩ := Prod.mk.inj (Outcome.ok.inj stepped)
            obtain ⟨deadline, limit, late⟩ := (Option.any_eq_true ..).mp late
            exact .wokeLate sleeping rested limit (of_decide_eq_true late)
          · obtain ⟨rfl, rfl⟩ := Prod.mk.inj (Outcome.ok.inj stepped)
            refine .woke sleeping rested fun deadline limit => not_le.mp fun passed => late ?_
            exact (Option.any_eq_true ..).mpr ⟨deadline, limit, decide_eq_true passed⟩
        · cases stepped
      · cases stepped
  | stop =>
      simp only [step] at stepped
      split at stepped
      · obtain ⟨rfl, rfl⟩ := Prod.mk.inj (Outcome.ok.inj stepped)
        exact .stopped ‹_›
      · cases stepped

/-! ## What a run does -/

end ClientRetry

/-- The number of an attempt. -/
def RetryOutput.attempt : RetryOutput → Option Nat
  | connectionAttempt attempt _ => some attempt
  | notify _ => none

/-- When an attempt begins. -/
def RetryOutput.time : RetryOutput → Option Nat
  | connectionAttempt _ time => some time
  | notify _ => none

def RetryOutput.status : RetryOutput → Option RuntimeStatus
  | notify (.statusChanged status) => some status
  | _ => none

/-- How a session ends. -/
def RetryInput.result : RetryInput → Option (Option RuntimeError)
  | finish error => some error
  | _ => none

/-- How many attempts there have been. -/
def attempts (past : List RetryOutput) : Nat := (past.filterMap RetryOutput.attempt).length

/-- The statuses of some attempts, each of which is followed by another. -/
def retriedStatuses (count : Nat) : List RuntimeStatus :=
  (List.replicate count [.connecting, .retrying]).flatten

theorem retriedStatuses_succ (count : Nat) :
    retriedStatuses (count + 1) = retriedStatuses count ++ [.connecting, .retrying] := by
  simp [retriedStatuses, List.replicate_succ']

namespace ClientRetry

variable {past : List RetryOutput} {started : Nat} {retryFor : Option Nat}

/-- The attempts are numbered and a pause apart.  The first begins at once, and the others before
the deadline. -/
structure Paced (started : Nat) (retryFor : Option Nat) (past : List RetryOutput)
    (client : ClientRetry) : Prop where
  deadline : client.deadline = retryFor.map (started + ·)
  number : client.attempt = min (attempts past) u32Max
  numbers : past.filterMap RetryOutput.attempt =
    (List.range (attempts past)).map fun index => min (index + 1) u32Max
  apart : (past.filterMap RetryOutput.time).Pairwise fun earlier later =>
    earlier + retryDelay ≤ later
  first : ∀ time ∈ (past.filterMap RetryOutput.time).head?, time = started
  early : ∀ time ∈ (past.filterMap RetryOutput.time).tail, ∀ deadline ∈ client.deadline,
    time < deadline
  busy : client.phase = .starting ∨ past.filterMap RetryOutput.time ≠ []
  begun : ∀ time ∈ past.filterMap RetryOutput.time, time ≤ client.now
  ready : client.phase = .starting →
    (∀ time ∈ past.filterMap RetryOutput.time, time + retryDelay ≤ client.now) ∧
      (past.filterMap RetryOutput.time = [] → client.now = started) ∧
      (past.filterMap RetryOutput.time ≠ [] → ∀ deadline ∈ client.deadline, client.now < deadline)
  asleep : ∀ {error wakeAt}, client.phase = .sleeping error wakeAt →
    (∀ time ∈ past.filterMap RetryOutput.time, time + retryDelay ≤ wakeAt) ∨
      ∃ deadline ∈ client.deadline, deadline ≤ wakeAt
  ended : ∀ {error}, client.phase = .ended (some error) →
    ∃ deadline ∈ client.deadline, deadline ≤ client.now

/-- The statuses alternate; the last attempt has told of a retry or has not. -/
def Told (past : List RetryOutput) (client : ClientRetry) : Prop :=
  match client.phase with
  | .starting | .retrying _ | .sleeping .. =>
      past.filterMap RetryOutput.status = retriedStatuses (attempts past)
  | .connecting | .failed _ =>
      past.filterMap RetryOutput.status ++ [.retrying] = retriedStatuses (attempts past)
  | .ended _ =>
      past.filterMap RetryOutput.status = retriedStatuses (attempts past) ∨
        past.filterMap RetryOutput.status ++ [.retrying] = retriedStatuses (attempts past)

theorem paced_start (started : Nat) (retryFor : Option Nat) :
    Paced started retryFor [] (start started retryFor) where
  deadline := rfl
  number := rfl
  numbers := rfl
  apart := .nil
  first := by simp
  early := by simp
  busy := Or.inl rfl
  begun := by simp
  ready _ := ⟨by simp, fun _ => rfl, by simp⟩
  asleep sleeping := by cases sleeping
  ended sleeping := by cases sleeping

/-- A step without an attempt. -/
theorem Paced.quiet (paced : Paced started retryFor past client)
    (waits : client.phase ≠ .starting)
    (silent : outputs.filterMap RetryOutput.attempt = [] ∧ outputs.filterMap RetryOutput.time = [])
    (deadline : next.deadline = client.deadline) (number : next.attempt = client.attempt)
    (later : client.now ≤ next.now)
    (ready : next.phase = .starting →
      (∀ time ∈ past.filterMap RetryOutput.time, time + retryDelay ≤ next.now) ∧
        ∀ deadline ∈ client.deadline, next.now < deadline)
    (asleep : ∀ {error wakeAt}, next.phase = .sleeping error wakeAt →
      (∀ time ∈ past.filterMap RetryOutput.time, time + retryDelay ≤ wakeAt) ∨
        ∃ deadline ∈ client.deadline, deadline ≤ wakeAt)
    (ended : ∀ {error}, next.phase = .ended (some error) →
      ∃ deadline ∈ client.deadline, deadline ≤ next.now) :
    Paced started retryFor (past ++ outputs) next := by
  have same : attempts (past ++ outputs) = attempts past := by
    simp [attempts, silent.1]
  have sameTimes : (past ++ outputs).filterMap RetryOutput.time =
      past.filterMap RetryOutput.time := by
    rw [List.filterMap_append, silent.2, List.append_nil]
  have nonempty : past.filterMap RetryOutput.time ≠ [] := paced.busy.resolve_left waits
  constructor
  · rw [deadline, paced.deadline]
  · rw [number, same, paced.number]
  · rw [List.filterMap_append, silent.1, List.append_nil, same, paced.numbers]
  · rw [sameTimes]
    exact paced.apart
  · rw [sameTimes]
    exact paced.first
  · rw [sameTimes, deadline]
    exact paced.early
  · rw [sameTimes]
    exact Or.inr nonempty
  · rw [sameTimes]
    exact fun time member => (paced.begun time member).trans later
  · rw [sameTimes, deadline]
    exact fun starting => (ready starting).imp_right fun soon =>
      ⟨fun none => absurd none nonempty, fun _ => soon⟩
  · rw [sameTimes, deadline]
    exact asleep
  · rw [deadline]
    exact ended

/-- A step without an attempt to where the client is neither asleep nor about to connect. -/
theorem Paced.passes (paced : Paced started retryFor past client) (waits : client.phase ≠ .starting)
    (silent : outputs.filterMap RetryOutput.attempt = [] ∧ outputs.filterMap RetryOutput.time = [])
    {phase : RetryPhase}
    (other : phase ≠ .starting ∧ ∀ error wakeAt, phase ≠ .sleeping error wakeAt)
    (ended : ∀ {error}, phase = .ended (some error) →
      ∃ deadline ∈ client.deadline, deadline ≤ client.now) :
    Paced started retryFor (past ++ outputs) { client with phase } :=
  paced.quiet waits silent rfl rfl le_rfl (fun starting => absurd starting other.1)
    (fun sleeping => absurd sleeping (other.2 _ _)) ended

/-- Another attempt begins. -/
theorem Paced.connected (paced : Paced started retryFor past client)
    (starting : client.phase = .starting) :
    Paced started retryFor
      (past ++ [.connectionAttempt (min (client.attempt + 1) u32Max) client.now,
        .notify (.statusChanged .connecting)])
      { client with attempt := min (client.attempt + 1) u32Max, phase := .connecting } := by
  obtain ⟨rested, atOnce, soon⟩ := paced.ready starting
  have more (number time : Nat) (event : AppEvent) :
      attempts (past ++ [.connectionAttempt number time, .notify event]) = attempts past + 1 := by
    simp [attempts, RetryOutput.attempt]
  have times (number time : Nat) (event : AppEvent) :
      (past ++ [RetryOutput.connectionAttempt number time, .notify event]).filterMap
          RetryOutput.time =
        past.filterMap RetryOutput.time ++ [time] := by
    simp [RetryOutput.time]
  have number : min (client.attempt + 1) u32Max = min (attempts past + 1) u32Max := by
    rw [paced.number]
    omega
  constructor
  · exact paced.deadline
  · rw [more, number]
  · rw [more, List.range_succ, List.map_append, ← paced.numbers, List.filterMap_append, number]
    rfl
  · rw [times, List.pairwise_append]
    exact ⟨paced.apart, List.pairwise_singleton .., by simpa using rested⟩
  · rw [times]
    intro time member
    cases before : past.filterMap RetryOutput.time with
    | nil =>
        rw [before] at member
        obtain rfl : client.now = time := Option.some.inj member
        exact atOnce before
    | cons first others =>
        rw [before] at member
        exact paced.first time (by rw [before]; exact member)
  · rw [times]
    intro time member deadline limit
    cases before : past.filterMap RetryOutput.time with
    | nil => simp [before] at member
    | cons first others =>
        rw [before, List.cons_append, List.tail_cons] at member
        rcases List.mem_append.mp member with old | new
        · exact paced.early time (by rwa [before]) deadline limit
        · obtain rfl := List.mem_singleton.mp new
          exact soon (by simp [before]) deadline limit
  · rw [times]
    exact Or.inr (by simp)
  · rw [times]
    intro time member
    rcases List.mem_append.mp member with old | new
    · exact paced.begun time old
    · exact (List.mem_singleton.mp new).le
  · exact fun starting => by cases starting
  · exact fun sleeping => by cases sleeping
  · exact fun ended => by cases ended

theorem Paced.kept (paced : Paced started retryFor past client)
    (steps : client.Steps input outputs next) : Paced started retryFor (past ++ outputs) next := by
  cases steps with
  | @elapsed nanoseconds waits =>
      refine paced.quiet waits ⟨rfl, rfl⟩ rfl rfl (Nat.le_add_right _ _)
        (fun starting => absurd starting waits) paced.asleep fun ended => ?_
      obtain ⟨deadline, limit, late⟩ := paced.ended ended
      exact ⟨deadline, limit, late.trans (Nat.le_add_right _ _)⟩
  | connected starting => exact paced.connected starting
  | failed connecting => exact paced.passes (by simp [connecting]) ⟨rfl, rfl⟩ (by simp) (by simp)
  | finished connecting => exact paced.passes (by simp [connecting]) ⟨rfl, rfl⟩ (by simp) (by simp)
  | retried failed early => exact paced.passes (by simp [failed]) ⟨rfl, rfl⟩ (by simp) (by simp)
  | gaveUp failed limited late =>
      exact paced.passes (by simp [failed]) ⟨rfl, rfl⟩ (by simp) fun _ => ⟨_, limited, late⟩
  | slept retrying =>
      refine paced.quiet (by simp [retrying]) ⟨rfl, rfl⟩ rfl rfl le_rfl
        (fun starting => by cases starting) (fun sleeping => ?_) fun ended => by cases ended
      obtain ⟨_, rfl⟩ := RetryPhase.sleeping.inj sleeping
      -- The client sleeps for a second, or until the deadline.
      have whole (full : retryDelay ≤ client.delay) (time : Nat)
          (member : time ∈ past.filterMap RetryOutput.time) :
          time + retryDelay ≤ client.now + client.delay :=
        Nat.add_le_add (paced.begun time member) full
      cases limit : client.deadline with
      | none => exact Or.inl (whole (by rw [delay, limit]))
      | some deadline =>
          by_cases full : retryDelay ≤ deadline - client.now
          · exact Or.inl (whole (by simp only [delay, limit]; omega))
          · refine Or.inr ⟨deadline, rfl, ?_⟩
            simp only [delay, limit]
            omega
  | wokeLate sleeping rested limited late =>
      exact paced.passes (by simp [sleeping]) ⟨rfl, rfl⟩ (by simp) fun _ => ⟨_, limited, late⟩
  | woke sleeping rested early =>
      refine paced.quiet (by simp [sleeping]) ⟨rfl, rfl⟩ rfl rfl le_rfl
        (fun _ => ⟨fun time member => ?_, early⟩) (fun sleeping => by cases sleeping)
        fun ended => by cases ended
      rcases paced.asleep sleeping with slept | ⟨deadline, limit, cut⟩
      · exact (slept time member).trans rested
      · exact absurd (cut.trans rested) (not_le.mpr (early deadline limit))
  | stopped sleeping => exact paced.passes (by simp [sleeping]) ⟨rfl, rfl⟩ (by simp) (by simp)

theorem Told.kept (told : Told past client) (steps : client.Steps input outputs next) :
    Told (past ++ outputs) next := by
  cases steps with
  | elapsed => rwa [List.append_nil]
  | connected starting =>
      rw [Told, starting] at told
      simp only [Told, attempts, List.filterMap_append, List.length_append]
      rw [told]
      exact (List.append_assoc ..).trans (retriedStatuses_succ _).symm
  | failed connecting =>
      rw [Told, connecting] at told
      rwa [List.append_nil]
  | finished connecting =>
      rw [Told, connecting] at told
      rw [List.append_nil]
      exact Or.inr told
  | retried failed early =>
      rw [Told, failed] at told
      simp only [Told, attempts, List.filterMap_append, List.length_append]
      exact told
  | gaveUp failed limited late =>
      rw [Told, failed] at told
      rw [List.append_nil]
      exact Or.inr told
  | slept retrying =>
      rw [Told, retrying] at told
      rwa [List.append_nil]
  | wokeLate sleeping rested limited late =>
      rw [Told, sleeping] at told
      rw [List.append_nil]
      exact Or.inl told
  | woke sleeping rested early =>
      rw [Told, sleeping] at told
      rwa [List.append_nil]
  | stopped sleeping =>
      rw [Told, sleeping] at told
      rw [List.append_nil]
      exact Or.inl told

/-- How the last session has ended. -/
def Blames (past : List RetryInput) (client : ClientRetry) : Prop :=
  match client.phase with
  | .starting | .connecting => True
  | .failed error | .retrying error | .sleeping error _ | .ended (some error) =>
      (past.filterMap RetryInput.result).getLast? = some (some error)
  | .ended none => (past.filterMap RetryInput.result).getLast? = some none ∨ .stop ∈ past

theorem Blames.kept {history : List RetryInput} (blames : Blames history client)
    (steps : client.Steps input outputs next) : Blames (history ++ [input]) next := by
  have quiet {error : Option RuntimeError} (silent : input.result = none)
      (last : (history.filterMap RetryInput.result).getLast? = some error) :
      ((history ++ [input]).filterMap RetryInput.result).getLast? = some error := by
    rwa [List.filterMap_append, List.filterMap_cons_none silent, List.filterMap_nil,
      List.append_nil]
  cases steps with
  | elapsed =>
      cases phase : client.phase with
      | starting | connecting => trivial
      | failed | retrying | sleeping =>
          rw [Blames, phase] at blames
          simp only [Blames]
          exact quiet rfl blames
      | ended result =>
          rw [Blames, phase] at blames
          simp only [Blames]
          cases result with
          | none => exact blames.imp (quiet rfl) (List.mem_append_left _)
          | some error => exact quiet rfl blames
  | connected => trivial
  | failed => simp [Blames, RetryInput.result]
  | finished => simp [Blames, RetryInput.result]
  | retried failed =>
      rw [Blames, failed] at blames
      exact quiet rfl blames
  | gaveUp failed =>
      rw [Blames, failed] at blames
      exact quiet rfl blames
  | slept retrying =>
      rw [Blames, retrying] at blames
      exact quiet rfl blames
  | wokeLate sleeping =>
      rw [Blames, sleeping] at blames
      exact quiet rfl blames
  | woke => trivial
  | stopped => exact Or.inr (by simp)

/-- However long the sessions last: a client that is to retry for a while begins its first attempt
at once and every other one a second or more after those before it and within that while.  It ends
with the error of the last one, not before the while has passed.  Its attempts are numbered, and it
says that it retries after each of them but perhaps the last. -/
theorem retries_bounded {inputs : List RetryInput} {final : ClientRetry}
    (ran : Machine.run step (start started retryFor) inputs = .ok (outputs, final)) :
    (outputs.filterMap RetryOutput.time).Pairwise
        (fun earlier later => earlier + retryDelay ≤ later) ∧
      (∀ time ∈ (outputs.filterMap RetryOutput.time).head?, time = started) ∧
      (∀ time ∈ (outputs.filterMap RetryOutput.time).tail, ∀ span ∈ retryFor,
        time < started + span) ∧
      (∀ error, final.phase = .ended (some error) →
        (∃ span ∈ retryFor, started + span ≤ final.now) ∧
          (inputs.filterMap RetryInput.result).getLast? = some (some error)) ∧
      outputs.filterMap RetryOutput.attempt =
        (List.range (attempts outputs)).map (fun index => min (index + 1) u32Max) ∧
      (outputs.filterMap RetryOutput.status = retriedStatuses (attempts outputs) ∨
        outputs.filterMap RetryOutput.status ++ [.retrying] =
          retriedStatuses (attempts outputs)) := by
  have pacing {past : List RetryOutput} {state next : ClientRetry} {input : RetryInput}
      {outputs : List RetryOutput} (paced : Paced started retryFor past state)
      (stepped : state.step input = .ok (outputs, next)) :
      Paced started retryFor (past ++ outputs) next := paced.kept (step_steps stepped)
  have telling {past : List RetryOutput} {state next : ClientRetry} {input : RetryInput}
      {outputs : List RetryOutput} (told : Told past state)
      (stepped : state.step input = .ok (outputs, next)) : Told (past ++ outputs) next :=
    told.kept (step_steps stepped)
  have blamed {history : List RetryInput} {middle next : ClientRetry} {input : RetryInput}
      {first rest : List RetryOutput}
      (_ : Machine.run step (start started retryFor) history = .ok (first, middle))
      (blames : Blames history middle) (_ : True)
      (stepped : middle.step input = .ok (rest, next)) : Blames (history ++ [input]) next :=
    blames.kept (step_steps stepped)
  have paced := Machine.run_emits pacing (paced_start started retryFor) ran
  have untold : Told [] (start started retryFor) := rfl
  have told := Machine.run_emits telling untold ran
  have blames := Machine.run_history blamed trivial (fun _ _ => trivial) ran
  rw [List.nil_append] at paced told
  refine ⟨paced.apart, paced.first, fun time member span limit => ?_,
    fun error ended => ⟨?_, ?_⟩, paced.numbers, ?_⟩
  · refine paced.early time member (started + span) ?_
    rw [paced.deadline, Option.mem_def.mp limit]
    rfl
  · obtain ⟨deadline, limit, late⟩ := paced.ended ended
    rw [paced.deadline] at limit
    obtain ⟨span, isSpan, rfl⟩ := Option.map_eq_some_iff.mp limit
    exact ⟨span, isSpan, late⟩
  · rw [Blames, ended] at blames
    exact blames
  · unfold Told at told
    split at told
    · exact Or.inl told
    · exact Or.inl told
    · exact Or.inl told
    · exact Or.inr told
    · exact Or.inr told
    · exact told

/-- One and a half seconds are enough for two attempts, and the second pause is cut short. -/
theorem retries_bounded_twice :
    ∃ outputs final,
      Machine.run step (start 0 (some 1500000000))
          [.connect, .elapse 10, .finish (some (.other "timed out")), .check, .sleep,
            .elapse 1000000000, .wake, .connect, .elapse 20, .finish (some (.other "refused")),
            .check, .sleep, .elapse 499999970, .wake] = .ok (outputs, final) ∧
      outputs.filterMap RetryOutput.time = [0, 1000000010] ∧ 1500000000 ≤ final.now := by
  obtain ⟨outputs, final, ran, times, late⟩ : ∃ outputs final,
      Machine.run step (start 0 (some 1500000000))
          [.connect, .elapse 10, .finish (some (.other "timed out")), .check, .sleep,
            .elapse 1000000000, .wake, .connect, .elapse 20, .finish (some (.other "refused")),
            .check, .sleep, .elapse 499999970, .wake] = .ok (outputs, final) ∧
      outputs.filterMap RetryOutput.time = [0, 1000000010] ∧
      final.phase = .ended (some (.other "refused")) := ⟨_, _, rfl, rfl, rfl⟩
  obtain ⟨_, _, _, gaveUp, _⟩ := retries_bounded ran
  refine ⟨outputs, final, ran, times, ?_⟩
  obtain ⟨span, limit, passed⟩ := (gaveUp _ late).1
  obtain rfl := Option.some.inj limit
  omega

end ClientRetry
end Rflow
