import Rflow.Foundation.Channel
import Rflow.Foundation.Flow

/-!
# A worker behind two bounded channels

A caller sends requests to a worker through one channel and collects its responses from another.
The caller does nothing else while it waits for room for a request, and neither does the worker
while it waits for room for a response.
-/

namespace Foundation

variable {α β γ κ : Type*} {n m : Nat}

/-- What the worker is at. -/
inductive WorkerPhase (α β : Type*) where
  | idle
  | working (request : α)
  | delivering (request : α) (response : β)
  deriving DecidableEq

/-- Each response stands with the request that it is for. -/
structure Worker (α β : Type*) (n m : Nat) where
  /-- The request that the caller waits to send. -/
  sending : Option α
  requests : Channel α n
  phase : WorkerPhase α β
  responses : Channel (α × β) m
  deriving DecidableEq

inductive WorkerInput (α γ κ : Type*) where
  | submit (request : α)
  /-- The request that the caller waits to send goes into the channel. -/
  | send
  | take
  /-- The worker is done with its request. -/
  | finish (effort : γ)
  | deliver
  /-- The caller collects a response, in some context. -/
  | collect (context : κ)
  deriving DecidableEq

inductive WorkerOutput (α β γ κ : Type*) where
  | finished (request : α) (effort : γ)
  | collected (request : α) (response : β) (context : κ)
  deriving DecidableEq

namespace WorkerPhase

/-- The request that the worker is still working at. -/
def unfinished : WorkerPhase α β → Option α
  | working request => some request
  | _ => none

/-- The request that is finished and not handed over, with its response. -/
def finished : WorkerPhase α β → Option (α × β)
  | delivering request response => some (request, response)
  | _ => none

end WorkerPhase

def WorkerInput.submitted : WorkerInput α γ κ → Option α
  | submit request => some request
  | _ => none

def WorkerInput.effort : WorkerInput α γ κ → Option γ
  | finish effort => some effort
  | _ => none

def WorkerInput.context : WorkerInput α γ κ → Option κ
  | collect context => some context
  | _ => none

def WorkerOutput.finishedOf : WorkerOutput α β γ κ → Option (α × γ)
  | .finished request effort => some (request, effort)
  | .collected .. => none

def WorkerOutput.collectedOf : WorkerOutput α β γ κ → Option (α × β × κ)
  | .finished .. => none
  | .collected request response context => some (request, response, context)

namespace Worker

def start : Worker α β n m := ⟨none, .empty, .idle, .empty⟩

def step (work : α → γ → β) :
    Machine.Step (Worker α β n m) (WorkerInput α γ κ) (WorkerOutput α β γ κ) Unit
  | worker, .submit request =>
      match worker.sending with
      | none => .ok ([], { worker with sending := some request })
      | some _ => .err ()
  | worker, .send =>
      match worker.sending with
      | some request =>
          match worker.requests.send request with
          | some requests => .ok ([], { worker with sending := none, requests })
          | none => .err ()
      | none => .err ()
  | worker, .take =>
      match worker.phase, worker.requests.receive with
      | .idle, some (request, requests) =>
          .ok ([], { worker with phase := .working request, requests })
      | _, _ => .err ()
  | worker, .finish effort =>
      match worker.phase with
      | .working request =>
          .ok ([.finished request effort],
            { worker with phase := .delivering request (work request effort) })
      | _ => .err ()
  | worker, .deliver =>
      match worker.phase with
      | .delivering request response =>
          match worker.responses.send (request, response) with
          | some responses => .ok ([], { worker with phase := .idle, responses })
          | none => .err ()
      | _ => .err ()
  | worker, .collect context =>
      match worker.sending, worker.responses.receive with
      | none, some ((request, response), responses) =>
          .ok ([.collected request response context], { worker with responses })
      | _, _ => .err ()

/-! ## What a step does -/

variable {work : α → γ → β} {worker next : Worker α β n m} {input : WorkerInput α γ κ}
  {outputs : List (WorkerOutput α β γ κ)}

inductive Steps (work : α → γ → β) (worker : Worker α β n m) :
    WorkerInput α γ κ → List (WorkerOutput α β γ κ) → Worker α β n m → Prop
  | submitted {request : α} (free : worker.sending = none) :
      Steps work worker (.submit request) [] { worker with sending := some request }
  | sent {request : α} {requests : Channel α n} (waits : worker.sending = some request)
      (room : worker.requests.send request = some requests) :
      Steps work worker .send [] { worker with sending := none, requests }
  | taken {request : α} {requests : Channel α n} (idle : worker.phase = .idle)
      (received : worker.requests.receive = some (request, requests)) :
      Steps work worker .take [] { worker with phase := .working request, requests }
  | finished {request : α} {effort : γ} (works : worker.phase = .working request) :
      Steps work worker (.finish effort) [.finished request effort]
        { worker with phase := .delivering request (work request effort) }
  | delivered {request : α} {response : β} {responses : Channel (α × β) m}
      (done : worker.phase = .delivering request response)
      (room : worker.responses.send (request, response) = some responses) :
      Steps work worker .deliver [] { worker with phase := .idle, responses }
  | collected {request : α} {response : β} {responses : Channel (α × β) m} {context : κ}
      (free : worker.sending = none)
      (received : worker.responses.receive = some ((request, response), responses)) :
      Steps work worker (.collect context) [.collected request response context]
        { worker with responses }

theorem step_steps (stepped : step work worker input = .ok (outputs, next)) :
    Steps work worker input outputs next := by
  cases input <;> simp only [step] at stepped <;> split at stepped <;>
    try (split at stepped)
  all_goals cases stepped
  · exact .submitted ‹_›
  · exact .sent ‹_› ‹_›
  · exact .taken ‹_› ‹_›
  · exact .finished ‹_›
  · exact .delivered ‹_› ‹_›
  · exact .collected ‹_› ‹_›

/-! ## Requests under way -/

/-- The requests that are not finished, oldest first. -/
def waiting (worker : Worker α β n m) : List α :=
  worker.phase.unfinished.toList ++ (worker.requests.messages ++ worker.sending.toList)

/-- The requests that are finished and whose responses are not collected, oldest first. -/
def ready (worker : Worker α β n m) : List (α × β) :=
  worker.responses.messages ++ worker.phase.finished.toList

theorem Steps.waits (steps : Steps work worker input outputs next) :
    (outputs.filterMap WorkerOutput.finishedOf).map Prod.fst ++ next.waiting =
      worker.waiting ++ input.submitted.toList := by
  cases steps with
  | submitted free => simp [waiting, WorkerInput.submitted, free]
  | sent waits room =>
      simp [waiting, WorkerInput.submitted, waits, Channel.messages_of_send room]
  | taken idle received =>
      simp [waiting, WorkerInput.submitted, idle, WorkerPhase.unfinished,
        Channel.messages_of_receive received]
  | finished works =>
      simp [waiting, WorkerInput.submitted, works, WorkerPhase.unfinished,
        WorkerOutput.finishedOf]
  | delivered done room =>
      simp [waiting, WorkerInput.submitted, done, WorkerPhase.unfinished]
  | collected free received =>
      simp [waiting, WorkerInput.submitted, WorkerOutput.finishedOf]

theorem Steps.readies (steps : Steps work worker input outputs next) :
    worker.ready ++ (outputs.filterMap WorkerOutput.finishedOf).map
        (fun finished => (finished.1, work finished.1 finished.2)) =
      (outputs.filterMap WorkerOutput.collectedOf).map
        (fun collected => (collected.1, collected.2.1)) ++ next.ready := by
  cases steps with
  | submitted free => simp [ready]
  | sent waits room => simp [ready]
  | taken idle received => simp [ready, idle, WorkerPhase.finished]
  | finished works =>
      simp [ready, works, WorkerPhase.finished, WorkerOutput.finishedOf, WorkerOutput.collectedOf]
  | delivered done room =>
      simp [ready, done, WorkerPhase.finished, Channel.messages_of_send room]
  | collected free received =>
      simp [ready, WorkerOutput.finishedOf, WorkerOutput.collectedOf,
        Channel.messages_of_receive received]

theorem Steps.efforts (steps : Steps work worker input outputs next) :
    (outputs.filterMap WorkerOutput.finishedOf).map Prod.snd = input.effort.toList ∧
      (outputs.filterMap WorkerOutput.collectedOf).map (fun collected => collected.2.2) =
        input.context.toList := by
  cases steps <;> exact ⟨rfl, rfl⟩

variable {final : Worker α β n m} {inputs : List (WorkerInput α γ κ)}

/-- The requests are finished in the order in which they are submitted, and none is lost. -/
theorem run_finishes (ran : Machine.run (step work) start inputs = .ok (outputs, final)) :
    (outputs.filterMap WorkerOutput.finishedOf).map Prod.fst ++ final.waiting =
      inputs.filterMap WorkerInput.submitted := by
  have conveys {state after : Worker α β n m} {input : WorkerInput α γ κ}
      {outputs : List (WorkerOutput α β γ κ)} (_ : True) (_ : True)
      (stepped : step work state input = .ok (outputs, after)) :
      True ∧ outputs.flatMap (fun output => (output.finishedOf.map Prod.fst).toList) ++
        after.waiting = state.waiting ++ input.submitted.toList := by
    rw [← List.filterMap_eq_flatMap_toList, ← List.map_filterMap]
    exact ⟨trivial, (step_steps stepped).waits⟩
  have whole := @Machine.run_conveys _ _ _ _ _ (step work) (fun _ => True) (fun _ => True) _ _ _
    conveys _ _ _ _ trivial (fun _ _ => trivial) ran
  rw [← List.filterMap_eq_flatMap_toList, ← List.filterMap_eq_flatMap_toList,
    ← List.map_filterMap] at whole
  exact whole

/-- The responses are collected in the order in which their requests are finished, and none is
lost. -/
theorem run_collects (ran : Machine.run (step work) start inputs = .ok (outputs, final)) :
    (outputs.filterMap WorkerOutput.collectedOf).map
        (fun collected => (collected.1, collected.2.1)) ++ final.ready =
      (outputs.filterMap WorkerOutput.finishedOf).map
        (fun finished => (finished.1, work finished.1 finished.2)) := by
  have kept {past : List (WorkerOutput α β γ κ)} {state after : Worker α β n m}
      {input : WorkerInput α γ κ} {outputs : List (WorkerOutput α β γ κ)}
      (same : (past.filterMap WorkerOutput.collectedOf).map
          (fun collected => (collected.1, collected.2.1)) ++ state.ready =
        (past.filterMap WorkerOutput.finishedOf).map
          (fun finished => (finished.1, work finished.1 finished.2)))
      (stepped : step work state input = .ok (outputs, after)) :
      ((past ++ outputs).filterMap WorkerOutput.collectedOf).map
          (fun collected => (collected.1, collected.2.1)) ++ after.ready =
        ((past ++ outputs).filterMap WorkerOutput.finishedOf).map
          (fun finished => (finished.1, work finished.1 finished.2)) := by
    simp only [List.filterMap_append, List.map_append]
    rw [List.append_assoc, ← (step_steps stepped).readies, ← List.append_assoc, same]
  exact @Machine.run_emits _ _ _ _ (step work)
    (fun past state => (past.filterMap WorkerOutput.collectedOf).map
        (fun collected => (collected.1, collected.2.1)) ++ state.ready =
      (past.filterMap WorkerOutput.finishedOf).map
        (fun finished => (finished.1, work finished.1 finished.2))) kept _ _ _ [] _ rfl ran

theorem run_efforts (ran : Machine.run (step work) worker inputs = .ok (outputs, final)) :
    (outputs.filterMap WorkerOutput.finishedOf).map Prod.snd =
        inputs.filterMap WorkerInput.effort ∧
      (outputs.filterMap WorkerOutput.collectedOf).map (fun collected => collected.2.2) =
        inputs.filterMap WorkerInput.context := by
  induction inputs generalizing worker outputs with
  | nil =>
      obtain ⟨rfl, _⟩ : [] = outputs ∧ worker = final := by simpa using ran
      exact ⟨rfl, rfl⟩
  | cons input inputs induction =>
      obtain ⟨first, next, rest, stepped, remaining, rfl⟩ := Machine.run_cons_eq_ok.mp ran
      obtain ⟨efforts, contexts⟩ := (step_steps stepped).efforts
      obtain ⟨moreEfforts, moreContexts⟩ := induction remaining
      simp only [List.filterMap_append, List.map_append, efforts, contexts, moreEfforts,
        moreContexts]
      exact ⟨by cases effort : input.effort <;> simp [effort],
        by cases context : input.context <;> simp [context]⟩

/-- What is collected are the responses to the first requests, in order: each is worked out for its
request with the effort that was put into it. -/
theorem run_serves (ran : Machine.run (step work) start inputs = .ok (outputs, final)) :
    ∃ served : List ((α × γ) × κ),
      served.map (fun item => item.1.1) <+: inputs.filterMap WorkerInput.submitted ∧
      served.map (fun item => item.1.2) <+: inputs.filterMap WorkerInput.effort ∧
      served.map Prod.snd = inputs.filterMap WorkerInput.context ∧
      outputs.filterMap WorkerOutput.collectedOf =
        served.map fun item => (item.1.1, work item.1.1 item.1.2, item.2) := by
  have finishes := run_finishes ran
  have collects := run_collects ran
  obtain ⟨efforts, contexts⟩ := run_efforts ran
  generalize outputs.filterMap WorkerOutput.finishedOf = finished at finishes collects efforts
  generalize outputs.filterMap WorkerOutput.collectedOf = collected at collects contexts ⊢
  have enough : collected.length ≤ finished.length := by
    have lengths := congrArg List.length collects
    simp only [List.length_append, List.length_map] at lengths
    omega
  have front : collected.map (fun item => (item.1, item.2.1)) =
      (finished.take collected.length).map fun item => (item.1, work item.1 item.2) := by
    rw [List.map_take, ← collects, List.take_left' (by simp)]
  have length : (finished.take collected.length).length =
      (inputs.filterMap WorkerInput.context).length := by
    rw [← contexts, List.length_map, List.length_take, min_eq_left enough]
  let served := (finished.take collected.length).zip (inputs.filterMap WorkerInput.context)
  have isPrefix : served.map Prod.fst <+: finished := by
    rw [List.map_fst_zip length.le]
    exact List.take_prefix _ _
  have requests := isPrefix.map Prod.fst
  have worked := isPrefix.map Prod.snd
  rw [List.map_map] at requests worked
  refine ⟨served, ?_, ?_, List.map_snd_zip length.ge, ?_⟩
  · exact finishes ▸ requests.trans (List.prefix_append _ _)
  · exact efforts ▸ worked
  · calc
      collected = List.zipWith (fun pair context => (pair.1, pair.2, context))
          (collected.map fun item => (item.1, item.2.1)) (collected.map fun item => item.2.2) := by
        simp [List.zipWith_map, List.zipWith_self]
      _ = served.map fun item => (item.1.1, work item.1.1 item.1.2, item.2) := by
        rw [front, contexts, List.zipWith_map_left, List.map_zip_eq_zipWith]
        rfl

/-! ## Waiting -/

/-- All the places for requests are taken. -/
structure Saturated (worker : Worker α β n m) : Prop where
  waits : worker.sending ≠ none
  requests : worker.requests.Full
  busy : worker.phase ≠ .idle
  responses : worker.responses.Full

def outstanding (worker : Worker α β n m) : Nat := worker.waiting.length + worker.ready.length

theorem saturated_iff : worker.Saturated ↔ worker.outstanding = n + m + 2 := by
  obtain ⟨sending, ⟨requests, requestsFit⟩, phase, ⟨responses, responsesFit⟩⟩ := worker
  simp only [outstanding, waiting, ready, List.length_append]
  constructor
  · rintro ⟨waits, requestsFull, busy, responsesFull⟩
    have requestsFull : requests.length = n := requestsFull
    have responsesFull : responses.length = m := responsesFull
    obtain ⟨request, rfl⟩ := Option.ne_none_iff_exists'.mp waits
    cases phase with
    | idle => exact absurd rfl busy
    | working _ | delivering _ _ =>
        simp [WorkerPhase.unfinished, WorkerPhase.finished]
        omega
  · intro total
    cases sending <;> cases phase <;>
      simp [WorkerPhase.unfinished, WorkerPhase.finished] at total
    all_goals first
      | omega
      | exact ⟨by simp, show requests.length = n by omega, by simp,
          show responses.length = m by omega⟩

/-- Once all places are taken the worker may finish its request, but nothing moves on. -/
theorem Saturated.kept (saturated : worker.Saturated)
    (stepped : step work worker input = .ok (outputs, next)) : next.Saturated := by
  cases step_steps stepped with
  | submitted free => exact absurd free saturated.waits
  | sent waits room => exact absurd saturated.requests (Channel.not_full_of_send room)
  | taken idle received => exact absurd idle saturated.busy
  | finished works => exact ⟨saturated.waits, saturated.requests, nofun, saturated.responses⟩
  | delivered done room => exact absurd saturated.responses (Channel.not_full_of_send room)
  | collected free received => exact absurd free saturated.waits

/-- The caller gets to do something else. -/
def Frees (work : α → γ → β) (κ : Type*) (worker : Worker α β n m) : Prop :=
  ∃ (inputs : List (WorkerInput α γ κ)) (outputs : List (WorkerOutput α β γ κ))
    (final : Worker α β n m),
    Machine.run (step work) worker inputs = .ok (outputs, final) ∧ final.sending = none

theorem Frees.after {input : WorkerInput α γ κ} (frees : next.Frees work κ)
    (stepped : step work worker input = .ok (outputs, next)) : worker.Frees work κ := by
  obtain ⟨inputs, more, final, ran, free⟩ := frees
  exact ⟨input :: inputs, outputs ++ more, final,
    Machine.run_cons_eq_ok.mpr ⟨_, _, _, stepped, ran, rfl⟩, free⟩

theorem frees_of_room (notFull : ¬ worker.requests.Full) : worker.Frees work κ := by
  cases waits : worker.sending with
  | none => exact ⟨[], [], worker, rfl, waits⟩
  | some request =>
      cases sent : worker.requests.send request with
      | none => exact absurd (Channel.send_eq_none.mp sent) notFull
      | some requests =>
          refine ⟨[.send], [], { worker with sending := none, requests }, ?_, rfl⟩
          exact Machine.run_singleton_eq_ok.mpr (by simp only [step, waits, sent])

theorem frees_of_idle (positive : 0 < n) (idle : worker.phase = .idle) : worker.Frees work κ := by
  by_cases full : worker.requests.Full
  · obtain ⟨request, requests, received⟩ := full.exists_receive positive
    have stepped : step work worker (.take : WorkerInput α γ κ) =
        .ok ([], { worker with phase := .working request, requests }) := by
      simp only [step, idle, received]
    exact (frees_of_room (Channel.not_full_of_receive received)).after stepped
  · exact frees_of_room full

theorem frees_of_delivering (positive : 0 < n) {request : α} {response : β}
    (done : worker.phase = .delivering request response) (room : ¬ worker.responses.Full) :
    worker.Frees work κ := by
  cases sent : worker.responses.send (request, response) with
  | none => exact absurd (Channel.send_eq_none.mp sent) room
  | some responses =>
      have stepped : step work worker (.deliver : WorkerInput α γ κ) =
          .ok ([], { worker with phase := .idle, responses }) := by
        simp only [step, done, sent]
      exact (frees_of_idle positive rfl).after stepped

/-- The caller is never free again exactly if as many requests are outstanding as there are
places: both channels are full, the worker has one and the caller has one. -/
theorem waits_forever_iff [Nonempty γ] (positive : 0 < n) :
    ¬ worker.Frees work κ ↔ worker.outstanding = n + m + 2 := by
  rw [← saturated_iff]
  constructor
  · intro stuck
    have requests : worker.requests.Full := not_not.mp fun room => stuck (frees_of_room room)
    have busy : worker.phase ≠ .idle := fun idle => stuck (frees_of_idle positive idle)
    refine ⟨fun free => stuck ⟨[], [], worker, rfl, free⟩, requests, busy, ?_⟩
    by_contra room
    cases phase : worker.phase with
    | idle => exact busy phase
    | delivering request response => exact stuck (frees_of_delivering positive phase room)
    | working request =>
        obtain ⟨effort⟩ := ‹Nonempty γ›
        have stepped : step work worker (.finish effort : WorkerInput α γ κ) =
            .ok ([.finished request effort],
              { worker with phase := .delivering request (work request effort) }) := by
          simp only [step, phase]
        have frees : Frees work κ
            { worker with phase := .delivering request (work request effort) } :=
          frees_of_delivering positive rfl room
        exact stuck (frees.after stepped)
  · rintro saturated ⟨inputs, outputs, final, ran, free⟩
    have kept : final.Saturated := Machine.run_preserves (fun saturated stepped =>
      saturated.kept stepped) saturated ran
    exact kept.waits free

end Worker
end Foundation
