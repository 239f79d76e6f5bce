import Rflow.Runtime.WorldSteps

/-!
# Accepting at the head of the loop

At each turn the loop waits for a connection anew, next to everything else that it waits for.  The
wait takes a connection from the endpoint and then waits for its handshake; when something else is
ready first, the wait is dropped, and with it the connection that it has taken.
-/

namespace Rflow

open Foundation

/-- How the handshake of a connection ends. -/
inductive HandshakeResult where
  | completed (attempt : Attempt)
  | failed
  deriving DecidableEq

/-- Where the wait for a connection is suspended. -/
inductive AcceptOne where
  | accepting
  | handshaking (connection : Nat) (result : Option HandshakeResult)
  deriving DecidableEq

/-- The loop at its head: the connections at the endpoint, numbered as they arrive, and the wait. -/
structure LoopHead where
  world : World
  queue : List Nat
  arrived : Nat
  acceptOne : AcceptOne

inductive HeadInput where
  /-- A connection arrives at the endpoint. -/
  | arrive
  /-- The wait is polled. -/
  | poll
  /-- The handshake of the connection that the wait has taken ends. -/
  | handshake (result : HandshakeResult)
  /-- The wait is over, and its branch is the one that runs. -/
  | accept (stored : StoredLayout)
  /-- The endpoint is closed under the wait. -/
  | endpointClosed (stored : StoredLayout)
  /-- Another branch is ready first. -/
  | turn (turn : LoopTurn)
  | neighbour (step : NeighbourStep)

/-- What becomes of a connection that is taken from the endpoint. -/
inductive ConnectionFate where
  | delivered
  | failed
  | dropped
  deriving DecidableEq

inductive HeadEvent where
  | taken (connection : Nat)
  | settled (connection : Nat) (fate : ConnectionFate)
  deriving DecidableEq

/-- What the accept branch is given. -/
def HandshakeResult.incoming : HandshakeResult → Incoming
  | completed attempt => .connected attempt
  | failed => .handshakeFailed

def HandshakeResult.fate : HandshakeResult → ConnectionFate
  | completed _ => .delivered
  | failed => .failed

/-- The connection that the wait has taken. -/
def AcceptOne.connection : AcceptOne → Option Nat
  | accepting => none
  | handshaking connection _ => some connection

/-- Another branch than the one of new connections. -/
def LoopTurn.isOther : LoopTurn → Bool
  | accept .. => false
  | _ => true

namespace LoopHead

section Steps

variable (primitives : Primitives) (config : HostConfig)

/-- Run a branch; the next turn waits for a connection anew. -/
def select (head : LoopHead) (turn : LoopTurn) (events : List HeadEvent) :
    Outcome Unit (List HeadEvent × LoopHead) := do
  let result ← head.world.step primitives config (.turn turn)
  pure (events, { head with world := result.2, acceptOne := .accepting })

def step : Machine.Step LoopHead HeadInput HeadEvent Unit := fun head input =>
  match input with
  | .arrive =>
      .ok ([], { head with queue := head.queue ++ [head.arrived], arrived := head.arrived + 1 })
  | .poll =>
      match head.acceptOne, head.queue with
      | .accepting, connection :: queue =>
          if (head.world.host.runs fun _ => true) = true then
            .ok ([.taken connection],
              { head with queue, acceptOne := .handshaking connection none })
          else
            .err ()
      | _, _ => .ok ([], head)
  | .handshake result =>
      match head.acceptOne with
      | .handshaking connection none =>
          .ok ([], { head with acceptOne := .handshaking connection (some result) })
      | _ => .err ()
  | .accept stored =>
      match head.acceptOne with
      | .handshaking connection (some result) =>
          head.select primitives config (.accept result.incoming stored)
            [.settled connection result.fate]
      | _ => .err ()
  | .endpointClosed stored =>
      match head.acceptOne with
      | .accepting => head.select primitives config (.accept .endpointClosed stored) []
      | _ => .err ()
  | .turn turn =>
      if turn.isOther then
        head.select primitives config turn
          (head.acceptOne.connection.toList.map fun connection => .settled connection .dropped)
      else
        .err ()
  | .neighbour neighbour => do
      let world ← head.world.neighbourStep primitives neighbour
      pure ([], { head with world })

end Steps

/-- The head of the loop when nobody has tried to connect yet. -/
def start (world : World) : LoopHead where
  world
  queue := []
  arrived := 0
  acceptOne := .accepting

variable {primitives : Primitives} {config : HostConfig} {head next final : LoopHead}
  {input : HeadInput} {events past : List HeadEvent}

theorem select_eq_ok {turn : LoopTurn} {told : List HeadEvent} :
    head.select primitives config turn told = .ok (events, next) ↔
      events = told ∧ ∃ outputs world,
        head.world.step primitives config (.turn turn) = .ok (outputs, world) ∧
          next = { head with world, acceptOne := .accepting } := by
  simp only [select, Outcome.bind_eq_ok, Outcome.pure_eq, Outcome.ok.injEq,
    Prod.mk.injEq, Prod.exists]
  constructor
  · rintro ⟨outputs, world, stepped, rfl, rfl⟩
    exact ⟨rfl, outputs, world, stepped, rfl⟩
  · rintro ⟨rfl, outputs, world, stepped, rfl⟩
    exact ⟨outputs, world, stepped, rfl, rfl⟩

/-- What a step does to the connections. -/
inductive Moves (head : LoopHead) : HeadInput → List HeadEvent → LoopHead → Prop
  | arrive : Moves head .arrive []
      { head with queue := head.queue ++ [head.arrived], arrived := head.arrived + 1 }
  | take {connection : Nat} {queue : List Nat} (waits : head.acceptOne = .accepting)
      (queued : head.queue = connection :: queue) :
      Moves head .poll [.taken connection]
        { head with queue, acceptOne := .handshaking connection none }
  | idle : Moves head .poll [] head
  | handshake {connection : Nat} {result : HandshakeResult}
      (taken : head.acceptOne = .handshaking connection none) :
      Moves head (.handshake result) []
        { head with acceptOne := .handshaking connection (some result) }
  | accept {connection : Nat} {result : HandshakeResult} {stored : StoredLayout} {world : World}
      (taken : head.acceptOne = .handshaking connection (some result)) :
      Moves head (.accept stored) [.settled connection result.fate]
        { head with world, acceptOne := .accepting }
  | endpointClosed {stored : StoredLayout} {world : World} (waits : head.acceptOne = .accepting) :
      Moves head (.endpointClosed stored) [] { head with world, acceptOne := .accepting }
  | turn {turn : LoopTurn} {world : World} :
      Moves head (.turn turn)
        (head.acceptOne.connection.toList.map fun connection => .settled connection .dropped)
        { head with world, acceptOne := .accepting }
  | neighbour {neighbour : NeighbourStep} {world : World} :
      Moves head (.neighbour neighbour) [] { head with world }

theorem step_moves (stepped : head.step primitives config input = .ok (events, next)) :
    Moves head input events next := by
  cases input with
  | arrive =>
      obtain ⟨rfl, rfl⟩ := Prod.mk.inj (Outcome.ok.inj stepped)
      exact .arrive
  | poll =>
      simp only [step] at stepped
      split at stepped
      · split_ifs at stepped
        obtain ⟨rfl, rfl⟩ := Prod.mk.inj (Outcome.ok.inj stepped)
        exact .take ‹_› ‹_›
      · obtain ⟨rfl, rfl⟩ := Prod.mk.inj (Outcome.ok.inj stepped)
        exact .idle
  | handshake result =>
      simp only [step] at stepped
      split at stepped
      · obtain ⟨rfl, rfl⟩ := Prod.mk.inj (Outcome.ok.inj stepped)
        exact .handshake ‹_›
      · cases stepped
  | accept stored =>
      simp only [step] at stepped
      split at stepped
      · obtain ⟨rfl, _, _, _, rfl⟩ := select_eq_ok.mp stepped
        exact .accept ‹_›
      · cases stepped
  | endpointClosed stored =>
      simp only [step] at stepped
      split at stepped
      · obtain ⟨rfl, _, _, _, rfl⟩ := select_eq_ok.mp stepped
        exact .endpointClosed ‹_›
      · cases stepped
  | turn turn =>
      simp only [step] at stepped
      split_ifs at stepped
      obtain ⟨rfl, _, _, _, rfl⟩ := select_eq_ok.mp stepped
      exact .turn
  | neighbour neighbour =>
      simp only [step, Outcome.bind_eq_ok, Outcome.pure_eq, Outcome.ok.injEq,
        Prod.mk.injEq] at stepped
      obtain ⟨world, _, rfl, rfl⟩ := stepped
      exact .neighbour

/-- A step of the loop at its head is a step of the world or leaves it alone. -/
theorem step_world (stepped : head.step primitives config input = .ok (events, next)) :
    ∃ inputs outputs, Machine.run (World.step primitives config) head.world inputs =
      .ok (outputs, next.world) := by
  have turned {turn : LoopTurn} {told : List HeadEvent}
      (selected : head.select primitives config turn told = .ok (events, next)) :
      ∃ inputs outputs, Machine.run (World.step primitives config) head.world inputs =
        .ok (outputs, next.world) := by
    obtain ⟨_, outputs, _, turns, rfl⟩ := select_eq_ok.mp selected
    exact ⟨[.turn turn], outputs, Machine.run_singleton_eq_ok.mpr turns⟩
  cases input with
  | neighbour neighbour =>
      simp only [step, Outcome.bind_eq_ok, Outcome.pure_eq, Outcome.ok.injEq,
        Prod.mk.injEq] at stepped
      obtain ⟨world, neighbours, _, rfl⟩ := stepped
      refine ⟨[.neighbour neighbour], [], Machine.run_singleton_eq_ok.mpr ?_⟩
      simp only [World.step, neighbours, Outcome.ok_bind, Outcome.pure_eq]
  | accept stored =>
      simp only [step] at stepped
      split at stepped
      · exact turned stepped
      · cases stepped
  | endpointClosed stored =>
      simp only [step] at stepped
      split at stepped
      · exact turned stepped
      · cases stepped
  | turn turn =>
      simp only [step] at stepped
      split_ifs at stepped
      exact turned stepped
  | arrive =>
      cases step_moves stepped
      exact ⟨[], [], rfl⟩
  | poll =>
      cases step_moves stepped <;> exact ⟨[], [], rfl⟩
  | handshake result =>
      cases step_moves stepped
      exact ⟨[], [], rfl⟩

/-- A run of the loop with the connections at its head is a run of the world. -/
theorem run_world {inputs : List HeadInput}
    (ran : Machine.run (LoopHead.step primitives config) head inputs = .ok (events, final)) :
    ∃ inputs outputs, Machine.run (World.step primitives config) head.world inputs =
      .ok (outputs, final.world) :=
  Machine.run_refines step_world ran

/-! ## Every connection has one fate -/

/-- Where every connection is that has arrived so far. -/
structure Accounted (past : List HeadEvent) (head : LoopHead) : Prop where
  nodup : head.queue.Nodup
  queued : ∀ connection ∈ head.queue, connection < head.arrived
  /-- The wait has taken its connection from the endpoint. -/
  held : ∀ connection, head.acceptOne.connection = some connection →
    connection < head.arrived ∧ connection ∉ head.queue ∧ .taken connection ∈ past
  /-- A connection with a fate has been taken, and is neither at the endpoint nor waited for. -/
  settled : ∀ connection fate, .settled connection fate ∈ past →
    connection < head.arrived ∧ connection ∉ head.queue ∧
      head.acceptOne.connection ≠ some connection ∧ .taken connection ∈ past
  /-- A connection that has been taken is waited for or has a fate. -/
  taken : ∀ connection, .taken connection ∈ past →
    head.acceptOne.connection = some connection ∨ ∃ fate, .settled connection fate ∈ past
  unique : ∀ connection one other, .settled connection one ∈ past →
    .settled connection other ∈ past → one = other

theorem accounted_start (world : World) : Accounted [] (start world) where
  nodup := List.nodup_nil
  queued := by simp [start]
  held := by simp [start, AcceptOne.connection]
  settled := by simp
  taken := by simp
  unique := by simp

/-- A connection that arrives is a new one. -/
theorem Accounted.arrive (accounted : Accounted past head) :
    Accounted past
      { head with queue := head.queue ++ [head.arrived], arrived := head.arrived + 1 } where
  nodup := by
    refine List.nodup_append.mpr ⟨accounted.nodup, List.nodup_singleton _, ?_⟩
    rintro connection queued _ member rfl
    rw [List.mem_singleton] at member
    exact absurd (accounted.queued _ queued) (by omega)
  queued connection member := by
    rcases List.mem_append.mp member with old | new
    · exact (accounted.queued connection old).trans (Nat.lt_succ_self _)
    · rw [List.mem_singleton.mp new]
      exact Nat.lt_succ_self _
  held connection holds := by
    obtain ⟨bound, notQueued, taken⟩ := accounted.held connection holds
    exact ⟨bound.trans (Nat.lt_succ_self _), by simpa using ⟨notQueued, bound.ne⟩, taken⟩
  settled connection fate member := by
    obtain ⟨bound, notQueued, notHeld, taken⟩ := accounted.settled connection fate member
    exact ⟨bound.trans (Nat.lt_succ_self _), by simpa using ⟨notQueued, bound.ne⟩, notHeld, taken⟩
  taken := accounted.taken
  unique := accounted.unique

/-- The wait takes the first connection from the endpoint. -/
theorem Accounted.take {connection : Nat} {queue : List Nat} (accounted : Accounted past head)
    (waits : head.acceptOne = .accepting) (queued : head.queue = connection :: queue) :
    Accounted (past ++ [.taken connection])
      { head with queue, acceptOne := .handshaking connection none } := by
  have nodup := accounted.nodup
  rw [queued, List.nodup_cons] at nodup
  have atEndpoint : connection ∈ head.queue := by simp [queued]
  have queue_sub {other : Nat} (member : other ∈ queue) : other ∈ head.queue := by
    simp [queued, member]
  exact
    { nodup := nodup.2
      queued := fun other member => accounted.queued other (queue_sub member)
      held := by
        rintro _ ⟨⟩
        exact ⟨accounted.queued _ atEndpoint, nodup.1, by simp⟩
      settled := by
        intro other fate member
        obtain ⟨bound, notQueued, _, taken⟩ := accounted.settled other fate (by simpa using member)
        refine ⟨bound, fun again => notQueued (queue_sub again), ?_, by simp [taken]⟩
        rintro ⟨⟩
        exact notQueued atEndpoint
      taken := by
        intro other member
        rcases List.mem_append.mp member with old | new
        · rcases accounted.taken other old with holds | ⟨fate, settled⟩
          · rw [waits] at holds
            cases holds
          · exact Or.inr ⟨fate, by simp [settled]⟩
        · obtain ⟨⟩ := List.mem_singleton.mp new
          exact Or.inl rfl
      unique := by
        intro other one two first second
        exact accounted.unique other one two (by simpa using first) (by simpa using second) }

/-- The wait ends, and the connection that it has taken, if any, gets its fate. -/
theorem Accounted.settle {world : World} (accounted : Accounted past head) (fate : ConnectionFate) :
    Accounted (past ++ head.acceptOne.connection.toList.map fun connection =>
      .settled connection fate) { head with world, acceptOne := .accepting } := by
  have mem_settled {connection : Nat} {other : ConnectionFate} :
      HeadEvent.settled connection other ∈ past ++ head.acceptOne.connection.toList.map
        (fun connection => .settled connection fate) ↔
      .settled connection other ∈ past ∨
        head.acceptOne.connection = some connection ∧ fate = other := by
    simp [and_comm]
  have mem_taken {connection : Nat} :
      HeadEvent.taken connection ∈ past ++ head.acceptOne.connection.toList.map
        (fun connection => .settled connection fate) ↔ .taken connection ∈ past := by
    simp
  exact
    { nodup := accounted.nodup
      queued := accounted.queued
      held := by simp [AcceptOne.connection]
      settled := by
        intro connection other member
        rw [mem_taken]
        rcases mem_settled.mp member with old | ⟨holds, _⟩
        · obtain ⟨bound, notQueued, _, taken⟩ := accounted.settled connection other old
          exact ⟨bound, notQueued, by simp [AcceptOne.connection], taken⟩
        · obtain ⟨bound, notQueued, taken⟩ := accounted.held connection holds
          exact ⟨bound, notQueued, by simp [AcceptOne.connection], taken⟩
      taken := by
        intro connection member
        refine Or.inr ?_
        rcases accounted.taken connection (mem_taken.mp member) with holds | ⟨other, settled⟩
        · exact ⟨fate, mem_settled.mpr (Or.inr ⟨holds, rfl⟩)⟩
        · exact ⟨other, mem_settled.mpr (Or.inl settled)⟩
      unique := by
        intro connection one other first second
        rcases mem_settled.mp first with old | ⟨holds, rfl⟩
        · rcases mem_settled.mp second with again | ⟨holds, _⟩
          · exact accounted.unique connection one other old again
          · exact absurd holds (accounted.settled connection one old).2.2.1
        · rcases mem_settled.mp second with again | ⟨_, rfl⟩
          · exact absurd holds (accounted.settled connection other again).2.2.1
          · rfl }

/-- Every step keeps account of the connections. -/
theorem Accounted.step (accounted : Accounted past head)
    (stepped : head.step primitives config input = .ok (events, next)) :
    Accounted (past ++ events) next := by
  have same {later : LoopHead} (queue : later.queue = head.queue)
      (arrived : later.arrived = head.arrived)
      (connection : later.acceptOne.connection = head.acceptOne.connection) :
      Accounted (past ++ []) later := by
    rw [List.append_nil]
    exact ⟨queue ▸ accounted.nodup, queue ▸ arrived ▸ accounted.queued,
      connection ▸ queue ▸ arrived ▸ accounted.held,
          connection ▸ queue ▸ arrived ▸ accounted.settled,
      connection ▸ accounted.taken, accounted.unique⟩
  cases step_moves stepped with
  | arrive =>
      rw [List.append_nil]
      exact accounted.arrive
  | take waits queued => exact accounted.take waits queued
  | idle => exact same rfl rfl rfl
  | handshake taken => exact same rfl rfl (by simp [taken, AcceptOne.connection])
  | @accept connection result _ _ taken =>
      have told : (head.acceptOne.connection.toList.map fun connection =>
          HeadEvent.settled connection result.fate) = [.settled connection result.fate] := by
        simp [taken, AcceptOne.connection]
      exact told ▸ accounted.settle result.fate
  | endpointClosed waits => exact same rfl rfl (by simp [waits, AcceptOne.connection])
  | turn => exact accounted.settle .dropped
  | neighbour => exact same rfl rfl rfl

/-! ## Runs -/

/-- No other branch runs while the handshake of a connection is going on. -/
def Undisturbed (head : LoopHead) : HeadInput → Prop
  | .turn _ => head.acceptOne = .accepting
  | _ => True

/-- Every connection that has been taken from the endpoint is still waited for, has been delivered
to its branch, or has failed by its own handshake. -/
def Kept (events : List HeadEvent) (head : LoopHead) : Prop :=
  ∀ connection, .taken connection ∈ events →
    head.acceptOne.connection = some connection ∨ .settled connection .delivered ∈ events ∨
      .settled connection .failed ∈ events

/-- Nothing is lost exactly when nothing is dropped. -/
theorem Accounted.kept_iff (accounted : Accounted past head) :
    Kept past head ↔ ∀ connection, .settled connection .dropped ∉ past := by
  constructor
  · intro kept connection dropped
    obtain ⟨_, _, notHeld, taken⟩ := accounted.settled connection _ dropped
    rcases kept connection taken with holds | delivered | failed
    · exact notHeld holds
    · cases accounted.unique connection _ _ dropped delivered
    · cases accounted.unique connection _ _ dropped failed
  · intro spared connection taken
    obtain holds | ⟨fate, settled⟩ := accounted.taken connection taken
    · exact Or.inl holds
    · cases fate with
      | delivered => exact Or.inr (Or.inl settled)
      | failed => exact Or.inr (Or.inr settled)
      | dropped => exact absurd settled (spared connection)

/-- A step drops a connection exactly when it disturbs its handshake. -/
theorem step_drops_iff (stepped : head.step primitives config input = .ok (events, next)) :
    (∀ event ∈ events, ∀ connection, event ≠ .settled connection .dropped) ↔
        Undisturbed head input := by
  cases step_moves stepped with
  | accept =>
      rename_i result _ _ _
      refine iff_of_true ?_ trivial
      cases result <;> simp [HandshakeResult.fate]
  | turn =>
      cases waits : head.acceptOne <;> simp [Undisturbed, AcceptOne.connection, waits]
  | _ => exact iff_of_true (by simp) trivial

/-- In every run of the loop, every connection that is taken from the endpoint is delivered or fails
by its own handshake, exactly when no other branch runs while a handshake is going on. -/
theorem connections_kept_iff {world : World} {inputs : List HeadInput}
    (ran : Machine.run (LoopHead.step primitives config)
    (start world) inputs = .ok (events, final)) :
    Kept events final ↔
      Machine.Along (LoopHead.step primitives config) Undisturbed (start world) inputs := by
  have accounted : Accounted events final :=
    Machine.run_emits Accounted.step (accounted_start world) ran
  rw [accounted.kept_iff, ← Machine.emitted_iff_along step_drops_iff ran]
  constructor
  · rintro spared _ member connection rfl
    exact spared connection member
  · exact fun spared connection member => spared _ member connection rfl

/-- A connection arrives, its handshake completes, and its peer is admitted. -/
theorem connections_kept_admitted :
    ∃ started events final,
      sampleHost sampleTrust = .ok started ∧
        Machine.run (LoopHead.step samplePrimitives sampleConfig)
            (start (World.start started sampleFiles (.database sampleTrust)))
            [.arrive, .poll, .handshake (.completed (sampleAttempt (sampleConnection 0 24801) [])),
              .accept (.ok (sampleLayout true))] = .ok (events, final) ∧
        Kept events final := by
  have accepts : ((sampleHost sampleTrust).any fun started =>
      (Machine.run (LoopHead.step samplePrimitives sampleConfig)
          (start (World.start started sampleFiles (.database sampleTrust)))
          [.arrive, .poll, .handshake (.completed (sampleAttempt (sampleConnection 0 24801) [])),
            .accept (.ok (sampleLayout true))]).any fun result =>
        result.2.world.host.runs fun _ => true) = true := by decide +kernel
  obtain ⟨started, starts, accepts⟩ := Outcome.any_eq_true.mp accepts
  obtain ⟨⟨events, final⟩, ran, _⟩ := Outcome.any_eq_true.mp accepts
  refine ⟨started, events, final, starts, ran, (connections_kept_iff ran).mpr ?_⟩
  simp [Machine.Along, Undisturbed]

/-- A heartbeat is due while the handshake of a connection is going on: the connection is lost. -/
theorem heartbeat_drops_connection :
    ∃ started events final,
      sampleHost sampleTrust = .ok started ∧
        Machine.run (LoopHead.step samplePrimitives sampleConfig)
            (start (World.start started sampleFiles (.database sampleTrust)))
            [.arrive, .poll, .turn (.heartbeat none (.ok (sampleLayout true)))] =
          .ok (events, final) ∧
        events = [.taken 0, .settled 0 .dropped] ∧ ¬ Kept events final := by
  have drops : ((sampleHost sampleTrust).any fun started =>
      (Machine.run (LoopHead.step samplePrimitives sampleConfig)
          (start (World.start started sampleFiles (.database sampleTrust)))
          [.arrive, .poll, .turn (.heartbeat none (.ok (sampleLayout true)))]).any fun result =>
        (result.2.world.host.runs fun _ => true) ∧ result.2.acceptOne = .accepting ∧
          result.1 = [.taken 0, .settled 0 .dropped]) = true := by decide +kernel
  obtain ⟨started, starts, drops⟩ := Outcome.any_eq_true.mp drops
  obtain ⟨⟨events, final⟩, ran, drops⟩ := Outcome.any_eq_true.mp drops
  obtain ⟨_, waits, rfl⟩ := of_decide_eq_true drops
  refine ⟨started, _, final, starts, ran, rfl, fun kept => ?_⟩
  rcases kept 0 (by simp) with holds | absurd
  · rw [waits] at holds
    cases holds
  · simp at absurd

end LoopHead
end Rflow
