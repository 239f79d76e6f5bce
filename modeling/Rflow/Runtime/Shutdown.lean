import Rflow.Foundation.Channel
import Rflow.Foundation.Progress
import Rflow.Runtime.Projection
import Rflow.Runtime.Supervisor

/-!
# Shutting the runtime down

To shut the runtime down, its owner sends a stop, reads notifications until one of them tells the
end of a session, sends another stop, and waits for the supervisor to exit.  Both channels between
them are bounded, and so are those by which the supervisor passes commands on to its session.  Other
parts of the application may send commands all the while.
-/

namespace Rflow

open Foundation

/-- A notification; only statuses matter here. -/
inductive Notice where
  | status (status : RuntimeStatus)
  | other
  deriving DecidableEq

/-- The notification tells the end of a session. -/
def Notice.final : Notice → Bool
  | .status value => value.dropsControl
  | .other => false

inductive SessionKind where
  | host
  | client
  deriving DecidableEq

/-- What a session begins with. -/
def SessionKind.mode : SessionKind → SessionMode
  | host => .serving
  | client => .client

/-- A command, with the number of notifications that the supervisor answers it with if it does not
pass it on. -/
inductive RuntimeCommand where
  | start (kind : SessionKind)
  | stop
  /-- Accept or reject a pairing. -/
  | decide
  | forget (notices : Nat)
  | other (notices : Nat)
  deriving DecidableEq

def RuntimeCommand.starts : RuntimeCommand → Bool
  | start _ => true
  | _ => false

/-- How a session ends: a panic counts as a fault. -/
inductive SessionEnd where
  | returned
  | needsConfiguration
  | faulted
  deriving DecidableEq

/-- The notifications about the end of a session. -/
def SessionEnd.notices : SessionEnd → List Notice
  | returned => [.status .stopped]
  | needsConfiguration => [.status .configurationRequired, .other]
  | faulted => [.status .faulted, .other]

inductive SessionTask where
  | working (mode : SessionMode)
  /-- The session waits for room for a notification. -/
  | publishing (mode : SessionMode) (notice : Notice)
  | ended (result : SessionEnd)
  deriving DecidableEq

/-- What the supervisor does when it has published its notifications. -/
inductive AfterNotices where
  | idle
  | running
  | startSession (kind : SessionKind)
  | stopSession
  | exit
  deriving DecidableEq

inductive SupervisorPhase where
  | idle
  | running
  | publishing (notices : List Notice) (after : AfterNotices)
  /-- The supervisor passes a command on to the session. -/
  | sending (channel : ForwardChannel)
  /-- The session has been told to stop. -/
  | awaiting
  | exited
  deriving DecidableEq

/-- Where the supervisor goes on. -/
def AfterNotices.phase : AfterNotices → SupervisorPhase
  | .idle => .idle
  | .running | .startSession _ => .running
  | .stopSession => .awaiting
  | .exit => .exited

inductive ShutdownPhase where
  /-- The runtime has not been told to shut down. -/
  | inUse
  | sendingFirst
  | draining
  | sendingSecond
  | awaitingExit
  | done
  deriving DecidableEq

structure Shutdown where
  commands : Channel RuntimeCommand 16
  events : Channel Notice 128
  supervisor : SupervisorPhase
  session : Option SessionTask
  decisions : Channel Unit 8
  forgets : Channel Unit 8
  owner : ShutdownPhase
  deriving DecidableEq

inductive ShutdownInput where
  /-- Another part of the application sends a command. -/
  | command (command : RuntimeCommand)
  /-- The session publishes a notification, if there is room. -/
  | tries (notice : Notice)
  /-- The session begins to publish a notification. -/
  | announces (notice : Notice)
  | deliver
  /-- The session goes on in another mode. -/
  | enter (mode : SessionMode)
  /-- The session takes what the supervisor passes on; a decision may be the one it waits for. -/
  | receive (channel : ForwardChannel) (answers : Bool)
  | ends (result : SessionEnd)
  /-- The supervisor takes the next command. -/
  | take
  /-- What the supervisor passes on finds room, or nobody to take it. -/
  | pass
  /-- The supervisor publishes its next notification. -/
  | publish
  /-- The supervisor goes on after its notifications. -/
  | proceed
  /-- The supervisor notices the end of the session. -/
  | noticeEnd
  /-- The owner begins to shut the runtime down. -/
  | shutdown
  /-- The owner sends one of its stops. -/
  | send
  /-- The owner reads the next notification, or that there are none to come. -/
  | read
  | complete
  deriving DecidableEq

namespace Shutdown

/-- The supervisor takes a command without a session. -/
def dispatchIdle : RuntimeCommand → SupervisorPhase
  | .start kind => .publishing [.status .starting] (.startSession kind)
  | .stop => .publishing [.status .stopped] .exit
  | .decide => .publishing [] .idle
  | .forget notices | .other notices => .publishing (List.replicate notices .other) .idle

/-- The supervisor takes a command next to a session; a second session is a fault. -/
def dispatch : RuntimeCommand → SupervisorPhase
  | .start _ => .publishing [.other] .running
  | .stop => .publishing [.status .stopping] .stopSession
  | .decide => .sending .decisions
  | .forget _ => .sending .forgets
  | .other notices => .publishing (List.replicate notices .other) .running

/-- The owner has sent a stop, or found the supervisor gone. -/
def sent : ShutdownPhase → ShutdownPhase
  | .sendingFirst => .draining
  | .sendingSecond => .awaitingExit
  | other => other

/-- The runtime is launched. -/
def launched : Shutdown := ⟨.empty, .empty, .idle, none, .empty, .empty, .inUse⟩

/-- What waits in a channel to the session. -/
def passed (state : Shutdown) : ForwardChannel → Channel Unit 8
  | .decisions => state.decisions
  | .forgets => state.forgets

def withPassed (state : Shutdown) (messages : Channel Unit 8) : ForwardChannel → Shutdown
  | .decisions => { state with decisions := messages }
  | .forgets => { state with forgets := messages }

/-- A session begins, with channels of its own. -/
def startSession (state : Shutdown) (kind : SessionKind) : Shutdown :=
  { state with session := some (.working kind.mode), decisions := .empty, forgets := .empty }

/-- The session has taken a message; a host that has the decision it waits for sets its peer up. -/
def received (mode : SessionMode) (answers : Bool) : SessionMode :=
  match mode with
  | .deciding requestId => if answers then .settingUp else .deciding requestId
  | mode => mode

/-- Publish a notification if there is room. -/
def tryPublish (state : Shutdown) (notice : Notice) : Shutdown :=
  { state with events := (state.events.send notice).getD state.events }

def step : Machine.Step Shutdown ShutdownInput Unit Unit
  | state, .command command =>
      if state.supervisor = .exited then
        .err ()
      else
        match state.commands.send command with
        | some commands => .ok ([], { state with commands })
        | none => .err ()
  | state, .tries notice =>
      match state.session with
      | some (.working _) =>
          if notice.final then .err () else .ok ([], state.tryPublish notice)
      | _ => .err ()
  | state, .announces notice =>
      match state.session with
      | some (.working mode) =>
          if notice.final then
            .err ()
          else
            .ok ([], { state with session := some (.publishing mode notice) })
      | _ => .err ()
  | state, .deliver =>
      match state.session with
      | some (.publishing mode notice) =>
          match state.events.send notice with
          | some events => .ok ([], { state with events, session := some (.working mode) })
          | none => .err ()
      | _ => .err ()
  | state, .enter mode =>
      match state.session with
      | some (.working current) =>
          if current.leadsTo mode then
            .ok ([], { state with session := some (.working mode) })
          else
            .err ()
      | _ => .err ()
  | state, .receive channel answers =>
      match state.session with
      | some (.working mode) =>
          if mode.reads channel then
            match (state.passed channel).receive with
            | some (_, messages) =>
                .ok ([], { state.withPassed messages channel with
                  session := some (.working (received mode answers)) })
            | none => .err ()
          else
            .err ()
      | _ => .err ()
  | state, .ends result =>
      match state.session with
      | some (.working _) => .ok ([], { state with session := some (.ended result) })
      | _ => .err ()
  | state, .take =>
      match state.supervisor, state.commands.receive with
      | .idle, some (command, commands) =>
          .ok ([], { state with commands, supervisor := dispatchIdle command })
      | .running, some (command, commands) =>
          .ok ([], { state with commands, supervisor := dispatch command })
      | _, _ => .err ()
  | state, .pass =>
      match state.supervisor, state.session with
      | .sending _, some (.ended _) => .ok ([], { state with supervisor := .running })
      | .sending channel, _ =>
          match (state.passed channel).send () with
          | some messages =>
              .ok ([], { state.withPassed messages channel with supervisor := .running })
          | none => .err ()
      | _, _ => .err ()
  | state, .publish =>
      match state.supervisor with
      | .publishing (notice :: notices) after =>
          match state.events.send notice with
          | some events => .ok ([], { state with events, supervisor := .publishing notices after })
          | none => .err ()
      | _ => .err ()
  | state, .proceed =>
      match state.supervisor with
      | .publishing [] (.startSession kind) =>
          .ok ([], { state.startSession kind with supervisor := .running })
      | .publishing [] after => .ok ([], { state with supervisor := after.phase })
      | _ => .err ()
  | state, .noticeEnd =>
      match state.supervisor, state.session with
      | .running, some (.ended result) | .awaiting, some (.ended result) =>
          .ok ([], { state.tryPublish .other with
            supervisor := .publishing result.notices .idle, session := none })
      | _, _ => .err ()
  | state, .shutdown =>
      if state.owner = .inUse then .ok ([], { state with owner := .sendingFirst }) else .err ()
  | state, .send =>
      if state.owner = .sendingFirst ∨ state.owner = .sendingSecond then
        if state.supervisor = .exited then
          .ok ([], { state with owner := sent state.owner })
        else
          match state.commands.send .stop with
          | some commands => .ok ([], { state with commands, owner := sent state.owner })
          | none => .err ()
      else
        .err ()
  | state, .read =>
      if state.owner = .inUse then
        match state.events.receive with
        | some (_, events) => .ok ([], { state with events })
        | none => .err ()
      else if state.owner = .draining then
        match state.events.receive with
        | some (notice, events) =>
            .ok ([], { state with
              events, owner := if notice.final then .sendingSecond else .draining })
        | none =>
            if state.supervisor = .exited then
              .ok ([], { state with owner := .sendingSecond })
            else
              .err ()
      else
        .err ()
  | state, .complete =>
      if state.owner = .awaitingExit ∧ state.supervisor = .exited then
        .ok ([], { state with owner := .done })
      else
        .err ()

/-- A step that nobody outside is needed for; a session ends by itself once it has been told to
stop. -/
def Own (state : Shutdown) : ShutdownInput → Prop
  | .command _ | .tries _ | .announces _ | .enter _ | .shutdown => False
  | .ends _ => state.supervisor = .awaiting
  | _ => True

instance (state : Shutdown) (input : ShutdownInput) : Decidable (state.Own input) :=
  match input with
  | .command _ | .tries _ | .announces _ | .enter _ | .shutdown => inferInstanceAs (Decidable False)
  | .ends _ => inferInstanceAs (Decidable (_ = _))
  | .deliver | .receive .. | .take | .pass | .publish | .proceed | .noticeEnd | .send | .read
  | .complete => inferInstanceAs (Decidable True)

/-- The owner needs room for a stop, has nothing to read, or waits for the supervisor. -/
def OwnerWaits (state : Shutdown) : Prop :=
  state.owner = .awaitingExit ∨
    (state.owner = .sendingFirst ∨ state.owner = .sendingSecond) ∧ state.commands.Full ∨
    state.owner = .draining ∧ state.events.messages = []

/-- The session needs room for a notification, or has taken what it reads in its mode. -/
def SessionWaits (state : Shutdown) : Prop :=
  match state.session with
  | some (.working mode) =>
      ∀ channel, mode.reads channel = true → (state.passed channel).messages = []
  | some (.publishing ..) => state.events.Full
  | _ => True

/-- The supervisor needs room for a notification, or for a command that it passes on, or waits for
a session that needs room for a notification. -/
inductive SupervisorWaits (state : Shutdown) : Prop
  | publishing {notice : Notice} {notices : List Notice} {after : AfterNotices}
      (publishing : state.supervisor = .publishing (notice :: notices) after)
      (full : state.events.Full)
  | sending {channel : ForwardChannel} (sending : state.supervisor = .sending channel)
      (full : (state.passed channel).Full) (alive : ∀ result, state.session ≠ some (.ended result))
  | awaiting {mode : SessionMode} {notice : Notice} (awaiting : state.supervisor = .awaiting)
      (publishing : state.session = some (.publishing mode notice))

/-- Everybody waits: the supervisor for room in the channel of notifications, which nobody reads, or
in a channel that its session does not read. -/
structure Jammed (state : Shutdown) : Prop where
  owner : state.OwnerWaits
  session : state.SessionWaits
  supervisor : state.SupervisorWaits

/-- The stops that come after every start. -/
def lastStops : List RuntimeCommand → Nat
  | [] => 0
  | .stop :: commands =>
      if commands.any RuntimeCommand.starts then lastStops commands else lastStops commands + 1
  | _ :: commands => lastStops commands

/-- The stops after every start that it takes to make the supervisor exit. -/
def stopsNeeded (commands : List RuntimeCommand) : SupervisorPhase → Nat
  | .exited | .publishing _ .exit => 0
  | .idle | .publishing _ .idle | .publishing _ .stopSession | .awaiting =>
      if commands.any RuntimeCommand.starts then 2 else 1
  | .running | .sending _ | .publishing _ .running | .publishing _ (.startSession _) => 2

/-- The stops that the owner has still to send. -/
def stopsOwed : ShutdownPhase → Nat
  | .inUse | .sendingFirst => 2
  | .draining | .sendingSecond => 1
  | .awaitingExit | .done => 0

/-- A session exists in this phase. -/
def hasSession : SupervisorPhase → Bool
  | .running | .sending _ | .publishing _ .running | .publishing _ .stopSession | .awaiting => true
  | _ => false

/-- The supervisor is about to tell the end of a session, or to exit. -/
def Concluding : SupervisorPhase → Prop
  | .exited | .awaiting | .publishing _ .exit | .publishing _ .stopSession => True
  | .publishing notices .idle => ∃ notice ∈ notices, notice.final = true
  | _ => False

/-- There are enough stops, and a reason for the owner to stop reading. -/
structure Closing (state : Shutdown) : Prop where
  session : state.session.isSome = hasSession state.supervisor
  stops : stopsNeeded state.commands.messages state.supervisor ≤
    stopsOwed state.owner + lastStops state.commands.messages
  concludes : state.owner = .draining → .stop ∈ state.commands.messages ∨
    (∃ notice ∈ state.events.messages, notice.final = true) ∨ Concluding state.supervisor
  exited : state.owner = .done → state.supervisor = .exited

/-! ## What an input does -/

variable {state next : Shutdown} {input : ShutdownInput} {outputs : List Unit}

inductive Steps (state : Shutdown) : ShutdownInput → Shutdown → Prop
  | command {command : RuntimeCommand} {commands : Channel RuntimeCommand 16}
      (sent : state.commands.send command = some commands) :
      Steps state (.command command) { state with commands }
  | tries {mode : SessionMode} {notice : Notice} (working : state.session = some (.working mode)) :
      Steps state (.tries notice) (state.tryPublish notice)
  | announces {mode : SessionMode} {notice : Notice}
      (working : state.session = some (.working mode)) :
      Steps state (.announces notice) { state with session := some (.publishing mode notice) }
  | delivers {mode : SessionMode} {notice : Notice} {events : Channel Notice 128}
      (publishing : state.session = some (.publishing mode notice))
      (sent : state.events.send notice = some events) :
      Steps state .deliver { state with events, session := some (.working mode) }
  | enters {current mode : SessionMode} (working : state.session = some (.working current)) :
      Steps state (.enter mode) { state with session := some (.working mode) }
  | receives {mode : SessionMode} {channel : ForwardChannel} {answers : Bool}
      {messages : Channel Unit 8} (working : state.session = some (.working mode))
      (reads : mode.reads channel = true)
      (taken : (state.passed channel).receive = some ((), messages)) :
      Steps state (.receive channel answers) { state.withPassed messages channel with
        session := some (.working (received mode answers)) }
  | ends {mode : SessionMode} {result : SessionEnd}
      (working : state.session = some (.working mode)) :
      Steps state (.ends result) { state with session := some (.ended result) }
  | takesIdle {command : RuntimeCommand} {commands : Channel RuntimeCommand 16}
      (idle : state.supervisor = .idle)
      (received : state.commands.receive = some (command, commands)) :
      Steps state .take { state with commands, supervisor := dispatchIdle command }
  | takes {command : RuntimeCommand} {commands : Channel RuntimeCommand 16}
      (running : state.supervisor = .running)
      (received : state.commands.receive = some (command, commands)) :
      Steps state .take { state with commands, supervisor := dispatch command }
  | loses {channel : ForwardChannel} {result : SessionEnd}
      (sending : state.supervisor = .sending channel)
      (ended : state.session = some (.ended result)) :
      Steps state .pass { state with supervisor := .running }
  | passes {channel : ForwardChannel} {messages : Channel Unit 8}
      (sending : state.supervisor = .sending channel)
      (sent : (state.passed channel).send () = some messages) :
      Steps state .pass { state.withPassed messages channel with supervisor := .running }
  | publishes {notice : Notice} {notices : List Notice} {after : AfterNotices}
      {events : Channel Notice 128}
      (publishing : state.supervisor = .publishing (notice :: notices) after)
      (sent : state.events.send notice = some events) :
      Steps state .publish { state with events, supervisor := .publishing notices after }
  | begins {kind : SessionKind}
      (published : state.supervisor = .publishing [] (.startSession kind)) :
      Steps state .proceed { state.startSession kind with supervisor := .running }
  | proceeds {after : AfterNotices} (published : state.supervisor = .publishing [] after)
      (other : ∀ kind, after ≠ .startSession kind) :
      Steps state .proceed { state with supervisor := after.phase }
  | noticesEnd {result : SessionEnd}
      (waits : state.supervisor = .running ∨ state.supervisor = .awaiting)
      (ended : state.session = some (.ended result)) :
      Steps state .noticeEnd { state.tryPublish .other with
        supervisor := .publishing result.notices .idle, session := none }
  | called (unused : state.owner = .inUse) :
      Steps state .shutdown { state with owner := .sendingFirst }
  | findsGone (sending : state.owner = .sendingFirst ∨ state.owner = .sendingSecond)
      (exited : state.supervisor = .exited) :
      Steps state .send { state with owner := sent state.owner }
  | sends {commands : Channel RuntimeCommand 16}
      (sending : state.owner = .sendingFirst ∨ state.owner = .sendingSecond)
      (sent : state.commands.send .stop = some commands) :
      Steps state .send { state with commands, owner := Shutdown.sent state.owner }
  | uses {notice : Notice} {events : Channel Notice 128} (unused : state.owner = .inUse)
      (received : state.events.receive = some (notice, events)) :
      Steps state .read { state with events }
  | reads {notice : Notice} {events : Channel Notice 128} (draining : state.owner = .draining)
      (received : state.events.receive = some (notice, events)) :
      Steps state .read { state with
        events, owner := if notice.final then .sendingSecond else .draining }
  | readsLast (draining : state.owner = .draining) (exited : state.supervisor = .exited) :
      Steps state .read { state with owner := .sendingSecond }
  | completes (waits : state.owner = .awaitingExit) (exited : state.supervisor = .exited) :
      Steps state .complete { state with owner := .done }

theorem step_steps (stepped : state.step input = .ok (outputs, next)) : state.Steps input next := by
  cases input with
  | command command =>
      simp only [step] at stepped
      split at stepped
      · cases stepped
      · split at stepped
        · obtain ⟨_, rfl⟩ := Prod.mk.inj (Outcome.ok.inj stepped)
          exact .command ‹_›
        · cases stepped
  | tries notice =>
      simp only [step] at stepped
      split at stepped
      · split_ifs at stepped
        obtain ⟨_, rfl⟩ := Prod.mk.inj (Outcome.ok.inj stepped)
        exact .tries ‹_›
      · cases stepped
  | announces notice =>
      simp only [step] at stepped
      split at stepped
      · split_ifs at stepped
        obtain ⟨_, rfl⟩ := Prod.mk.inj (Outcome.ok.inj stepped)
        exact .announces ‹_›
      · cases stepped
  | deliver =>
      simp only [step] at stepped
      split at stepped
      · split at stepped
        · obtain ⟨_, rfl⟩ := Prod.mk.inj (Outcome.ok.inj stepped)
          exact .delivers ‹_› ‹_›
        · cases stepped
      · cases stepped
  | enter mode =>
      simp only [step] at stepped
      split at stepped
      · split_ifs at stepped
        obtain ⟨_, rfl⟩ := Prod.mk.inj (Outcome.ok.inj stepped)
        exact .enters ‹_›
      · cases stepped
  | receive channel answers =>
      simp only [step] at stepped
      split at stepped
      · split_ifs at stepped with reads
        split at stepped
        · obtain ⟨_, rfl⟩ := Prod.mk.inj (Outcome.ok.inj stepped)
          exact .receives ‹_› reads ‹_›
        · cases stepped
      · cases stepped
  | ends result =>
      simp only [step] at stepped
      split at stepped
      · obtain ⟨_, rfl⟩ := Prod.mk.inj (Outcome.ok.inj stepped)
        exact .ends ‹_›
      · cases stepped
  | take =>
      simp only [step] at stepped
      split at stepped
      · obtain ⟨_, rfl⟩ := Prod.mk.inj (Outcome.ok.inj stepped)
        exact .takesIdle ‹_› ‹_›
      · obtain ⟨_, rfl⟩ := Prod.mk.inj (Outcome.ok.inj stepped)
        exact .takes ‹_› ‹_›
      · cases stepped
  | pass =>
      simp only [step] at stepped
      split at stepped
      · obtain ⟨_, rfl⟩ := Prod.mk.inj (Outcome.ok.inj stepped)
        exact .loses ‹_› ‹_›
      · split at stepped
        · obtain ⟨_, rfl⟩ := Prod.mk.inj (Outcome.ok.inj stepped)
          exact .passes ‹_› ‹_›
        · cases stepped
      · cases stepped
  | publish =>
      simp only [step] at stepped
      split at stepped
      · split at stepped
        · obtain ⟨_, rfl⟩ := Prod.mk.inj (Outcome.ok.inj stepped)
          exact .publishes ‹_› ‹_›
        · cases stepped
      · cases stepped
  | proceed =>
      simp only [step] at stepped
      split at stepped
      · obtain ⟨_, rfl⟩ := Prod.mk.inj (Outcome.ok.inj stepped)
        exact .begins ‹_›
      · rename_i after other published
        obtain ⟨_, rfl⟩ := Prod.mk.inj (Outcome.ok.inj stepped)
        exact .proceeds published fun kind same => other kind same
      · cases stepped
  | noticeEnd =>
      simp only [step] at stepped
      split at stepped
      · obtain ⟨_, rfl⟩ := Prod.mk.inj (Outcome.ok.inj stepped)
        exact .noticesEnd (Or.inl ‹_›) ‹_›
      · obtain ⟨_, rfl⟩ := Prod.mk.inj (Outcome.ok.inj stepped)
        exact .noticesEnd (Or.inr ‹_›) ‹_›
      · cases stepped
  | shutdown =>
      simp only [step] at stepped
      split_ifs at stepped with unused
      obtain ⟨_, rfl⟩ := Prod.mk.inj (Outcome.ok.inj stepped)
      exact .called unused
  | send =>
      simp only [step] at stepped
      split at stepped
      · split at stepped
        · obtain ⟨_, rfl⟩ := Prod.mk.inj (Outcome.ok.inj stepped)
          exact .findsGone ‹_› ‹_›
        · split at stepped
          · obtain ⟨_, rfl⟩ := Prod.mk.inj (Outcome.ok.inj stepped)
            exact .sends ‹_› ‹_›
          · cases stepped
      · cases stepped
  | read =>
      simp only [step] at stepped
      split at stepped
      · split at stepped
        · obtain ⟨_, rfl⟩ := Prod.mk.inj (Outcome.ok.inj stepped)
          exact .uses ‹_› ‹_›
        · cases stepped
      · split at stepped
        · split at stepped
          · obtain ⟨_, rfl⟩ := Prod.mk.inj (Outcome.ok.inj stepped)
            exact .reads ‹_› ‹_›
          · split_ifs at stepped
            obtain ⟨_, rfl⟩ := Prod.mk.inj (Outcome.ok.inj stepped)
            exact .readsLast ‹_› ‹_›
        · cases stepped
  | complete =>
      simp only [step] at stepped
      split_ifs at stepped with waits
      obtain ⟨_, rfl⟩ := Prod.mk.inj (Outcome.ok.inj stepped)
      exact .completes waits.1 waits.2

/-! ## What every step keeps -/

theorem mem_tryPublish {notice waiting : Notice} (member : waiting ∈ state.events.messages) :
    waiting ∈ (state.tryPublish notice).events.messages := by
  unfold tryPublish
  cases sent : state.events.send notice with
  | none => exact member
  | some events =>
      rw [Option.getD_some, Channel.messages_of_send sent]
      exact List.mem_append_left _ member

theorem length_tryPublish (state : Shutdown) (notice : Notice) :
    (state.tryPublish notice).events.messages.length ≤ state.events.messages.length + 1 := by
  unfold tryPublish
  cases sent : state.events.send notice with
  | none => exact Nat.le_succ _
  | some events => rw [Option.getD_some, Channel.messages_of_send sent, List.length_append,
      List.length_singleton]

/-- The end of a session is told. -/
theorem notices_concluding (result : SessionEnd) :
    Concluding (.publishing result.notices .idle) := by
  cases result with
  | returned => exact ⟨.status .stopped, by simp [SessionEnd.notices], rfl⟩
  | needsConfiguration => exact ⟨.status .configurationRequired, by simp [SessionEnd.notices], rfl⟩
  | faulted => exact ⟨.status .faulted, by simp [SessionEnd.notices], rfl⟩

/-- A start comes before the shutdown has sent its first stop. -/
def InTime (state : Shutdown) (input : ShutdownInput) : Prop :=
  (∃ kind, input = .command (.start kind)) → state.owner = .inUse ∨ state.owner = .sendingFirst

instance (state : Shutdown) : (input : ShutdownInput) → Decidable (state.InTime input)
  | .command (.start kind) => decidable_of_iff (state.owner = .inUse ∨ state.owner = .sendingFirst)
      ⟨fun early _ => early, fun inTime => inTime ⟨kind, rfl⟩⟩
  | .command .stop | .command .decide | .command (.forget _) | .command (.other _) | .tries _
  | .announces _ | .deliver | .enter _ | .receive .. | .ends _ | .take | .pass | .publish | .proceed
  | .noticeEnd | .shutdown | .send | .read | .complete => isTrue fun ⟨_, same⟩ => nomatch same

theorem stopsNeeded_le_two (commands : List RuntimeCommand) (phase : SupervisorPhase) :
    stopsNeeded commands phase ≤ 2 := by
  unfold stopsNeeded
  split <;> try split_ifs
  all_goals decide

/-- A command that is not a start leaves the need for stops as it is. -/
theorem stopsNeeded_append {commands : List RuntimeCommand} (command : RuntimeCommand)
    (other : command.starts = false) (phase : SupervisorPhase) :
    stopsNeeded (commands ++ [command]) phase = stopsNeeded commands phase := by
  have same : (commands ++ [command]).any RuntimeCommand.starts =
      commands.any RuntimeCommand.starts := by
    simp [other]
  cases phase with
  | publishing notices after => cases after <;> simp [stopsNeeded, same]
  | _ => simp [stopsNeeded, same]

theorem lastStops_append_stop (commands : List RuntimeCommand) :
    lastStops (commands ++ [.stop]) = lastStops commands + 1 := by
  induction commands with
  | nil => rfl
  | cons command commands induction =>
      cases command <;> simp only [List.cons_append, lastStops, induction, List.any_append,
        List.any_cons, List.any_nil, RuntimeCommand.starts, Bool.or_false]
      split_ifs <;> rfl

theorem lastStops_append_other {commands : List RuntimeCommand} {command : RuntimeCommand}
    (other : command.starts = false) (going : command ≠ .stop) :
    lastStops (commands ++ [command]) = lastStops commands := by
  induction commands with
  | nil => cases command <;> first | rfl | exact absurd rfl going
  | cons first commands induction =>
      cases first <;> simp only [List.cons_append, lastStops, induction, List.any_append,
        List.any_cons, List.any_nil, other, Bool.or_false]

@[simp]
theorem withPassed_commands {messages : Channel Unit 8} (channel : ForwardChannel) :
    (state.withPassed messages channel).commands = state.commands := by
  cases channel <;> rfl

@[simp]
theorem withPassed_events {messages : Channel Unit 8} (channel : ForwardChannel) :
    (state.withPassed messages channel).events = state.events := by
  cases channel <;> rfl

@[simp]
theorem withPassed_supervisor {messages : Channel Unit 8} (channel : ForwardChannel) :
    (state.withPassed messages channel).supervisor = state.supervisor := by
  cases channel <;> rfl

@[simp]
theorem withPassed_session {messages : Channel Unit 8} (channel : ForwardChannel) :
    (state.withPassed messages channel).session = state.session := by
  cases channel <;> rfl

@[simp]
theorem withPassed_owner {messages : Channel Unit 8} (channel : ForwardChannel) :
    (state.withPassed messages channel).owner = state.owner := by
  cases channel <;> rfl

/-- Every step keeps the shutdown going, unless it brings a start too late. -/
theorem Closing.kept (closing : state.Closing) (inTime : state.InTime input)
    (steps : state.Steps input next) : next.Closing := by
  obtain ⟨session, stops, concludes, exited⟩ := closing
  cases steps with
  | @command command commands sent =>
      have messages := Channel.messages_of_send sent
      refine ⟨session, ?_, fun draining => ?_, exited⟩
      · rw [messages]
        cases command with
        | start kind =>
            have owed : stopsOwed state.owner = 2 := by
              rcases inTime ⟨kind, rfl⟩ with owner | owner <;> rw [owner] <;> rfl
            rw [owed]
            exact (stopsNeeded_le_two _ _).trans (Nat.le_add_right _ _)
        | stop =>
            rw [stopsNeeded_append .stop rfl, lastStops_append_stop]
            exact stops.trans (Nat.le_succ _)
        | _ => rwa [stopsNeeded_append _ rfl, lastStops_append_other rfl (by simp)]
      · rw [messages]
        exact (concludes draining).imp_left (List.mem_append_left _)
  | tries =>
      refine ⟨session, stops, fun draining => ?_, exited⟩
      exact (concludes draining).imp_right fun rest => rest.imp_left fun ⟨notice, member, final⟩ =>
        ⟨notice, mem_tryPublish member, final⟩
  | announces working =>
      rw [working] at session
      exact ⟨session, stops, concludes, exited⟩
  | delivers publishing sent =>
      rw [publishing] at session
      refine ⟨session, stops, fun draining => ?_, exited⟩
      rw [Channel.messages_of_send sent]
      exact (concludes draining).imp_right fun rest => rest.imp_left fun ⟨notice, member, final⟩ =>
        ⟨notice, List.mem_append_left _ member, final⟩
  | enters working =>
      rw [working] at session
      exact ⟨session, stops, concludes, exited⟩
  | @receives _ channel _ _ working =>
      rw [working] at session
      cases channel <;> exact ⟨session, stops, concludes, exited⟩
  | ends working =>
      rw [working] at session
      exact ⟨session, stops, concludes, exited⟩
  | @takesIdle command commands idle received =>
      have messages := Channel.messages_of_receive received
      rw [idle] at session stops concludes
      rw [messages] at stops concludes
      have going : state.owner ≠ .done := fun done => by cases idle.symm.trans (exited done)
      cases command with
      | stop =>
          exact ⟨session, Nat.zero_le _, fun _ => Or.inr (Or.inr trivial),
            fun done => absurd done going⟩
      | _ =>
          refine ⟨session, ?_, fun draining => ?_, fun done => absurd done going⟩
          · simpa [stopsNeeded, dispatchIdle, lastStops, RuntimeCommand.starts] using stops
          · rcases concludes draining with stop | events | none
            · exact Or.inl (by simpa using stop)
            · exact Or.inr (Or.inl events)
            · exact none.elim
  | @takes command commands running received =>
      have messages := Channel.messages_of_receive received
      rw [running] at session stops concludes
      rw [messages] at stops concludes
      have going : state.owner ≠ .done := fun done => by cases running.symm.trans (exited done)
      cases command with
      | stop =>
          refine ⟨session, ?_, fun _ => Or.inr (Or.inr trivial), fun done => absurd done going⟩
          simp only [stopsNeeded, lastStops, dispatch] at stops ⊢
          split_ifs at stops ⊢ <;> omega
      | _ =>
          refine ⟨session, stops, fun draining => ?_, fun done => absurd done going⟩
          rcases concludes draining with stop | events | none
          · exact Or.inl (by simpa using stop)
          · exact Or.inr (Or.inl events)
          · exact none.elim
  | loses sending =>
      rw [sending] at session stops concludes
      exact ⟨session, stops, concludes, fun done => by cases sending.symm.trans (exited done)⟩
  | @passes channel _ sending =>
      rw [sending] at session stops concludes
      have going : state.owner ≠ .done := fun done => by cases sending.symm.trans (exited done)
      cases channel <;> exact ⟨session, stops, concludes, fun done => absurd done going⟩
  | @publishes notice notices after events publishing sent =>
      have messages := Channel.messages_of_send sent
      rw [publishing] at session stops concludes
      refine ⟨?_, ?_, fun draining => ?_, fun done => by
        cases publishing.symm.trans (exited done)⟩
      · cases after <;> exact session
      · cases after <;> exact stops
      · rw [messages]
        rcases concludes draining with stop | ⟨told, member, final⟩ | concluding
        · exact Or.inl stop
        · exact Or.inr (Or.inl ⟨told, List.mem_append_left _ member, final⟩)
        · cases after with
          | idle =>
              -- The notification that tells the end is published now or later.
              obtain ⟨told, member, final⟩ := concluding
              rcases List.mem_cons.mp member with rfl | later
              · exact Or.inr (Or.inl ⟨told, by simp, final⟩)
              · exact Or.inr (Or.inr ⟨told, later, final⟩)
          | running | startSession => exact concluding.elim
          | stopSession | exit => exact Or.inr (Or.inr trivial)
  | begins published =>
      rw [published] at stops concludes
      exact ⟨rfl, stops, concludes, fun done => by cases published.symm.trans (exited done)⟩
  | @proceeds after published other =>
      rw [published] at session stops concludes
      refine ⟨?_, ?_, fun draining => ?_, fun done => by
        cases published.symm.trans (exited done)⟩
      · cases after <;> first | exact session | exact absurd rfl (other _)
      · cases after <;> exact stops
      · rcases concludes draining with stop | events | concluding
        · exact Or.inl stop
        · exact Or.inr (Or.inl events)
        · cases after with
          | idle =>
              obtain ⟨_, member, _⟩ := concluding
              cases member
          | running | startSession => exact concluding.elim
          | stopSession | exit => exact Or.inr (Or.inr trivial)
  | @noticesEnd result waits ended =>
      refine ⟨rfl, ?_, fun _ => Or.inr (Or.inr (notices_concluding result)), fun done => ?_⟩
      · refine le_trans ?_ stops
        rcases waits with waits | waits <;> rw [waits] <;> simp only [stopsNeeded]
        · split_ifs <;> decide
        · exact le_rfl
      · have gone := exited done
        rcases waits with waits | waits <;> cases waits.symm.trans gone
  | called unused =>
      rw [unused] at stops
      exact ⟨session, stops, nofun, nofun⟩
  | findsGone sending gone =>
      refine ⟨session, ?_, fun _ => Or.inr (Or.inr ?_), fun _ => gone⟩
      · rw [gone]
        exact Nat.zero_le _
      · rw [gone]
        trivial
  | @sends commands sending sent =>
      have messages := Channel.messages_of_send sent
      refine ⟨session, ?_, fun _ => Or.inl ?_, fun done => ?_⟩
      · rw [messages, stopsNeeded_append .stop rfl, lastStops_append_stop]
        rcases sending with sending | sending <;> rw [sending] at stops ⊢ <;>
          simp only [stopsOwed, Shutdown.sent] at stops ⊢ <;> omega
      · rw [messages]
        simp
      · rcases sending with sending | sending <;> rw [sending] at done <;> cases done
  | uses unused =>
      refine ⟨session, stops, fun draining => ?_, exited⟩
      cases unused.symm.trans draining
  | @reads notice events draining received =>
      have messages := Channel.messages_of_receive received
      rw [draining] at stops
      cases final : notice.final with
      | true => exact ⟨session, stops, nofun, nofun⟩
      | false =>
          refine ⟨session, stops, fun _ => ?_, nofun⟩
          rcases concludes draining with stop | ⟨told, member, isFinal⟩ | concluding
          · exact Or.inl stop
          · rw [messages] at member
            rcases List.mem_cons.mp member with rfl | later
            · cases final.symm.trans isFinal
            · exact Or.inr (Or.inl ⟨told, later, isFinal⟩)
          · exact Or.inr (Or.inr concluding)
  | readsLast draining gone =>
      refine ⟨session, ?_, nofun, nofun⟩
      rw [gone]
      exact Nat.zero_le _
  | completes waits gone =>
      refine ⟨session, ?_, nofun, fun _ => gone⟩
      rw [gone]
      exact Nat.zero_le _

/-- A shutdown that has begun goes on. -/
theorem called_kept (called : state.owner ≠ .inUse) (steps : state.Steps input next) :
    next.owner ≠ .inUse := by
  cases steps with
  | called => nofun
  | receives | passes => simpa using called
  | findsGone sending => rcases sending with sending | sending <;> simp [sending, Shutdown.sent]
  | sends sending => rcases sending with sending | sending <;> simp [sending, Shutdown.sent]
  | @reads notice => cases final : notice.final <;> simp
  | readsLast => nofun
  | completes => nofun
  | _ => exact called

/-! ## How long it takes -/

/-- The steps that a command leads to, at most. -/
def commandWork : RuntimeCommand → Nat
  | .start _ => 16
  | .stop | .decide => 4
  | .forget notices | .other notices => 2 * notices + 3

def supervisorWork : SupervisorPhase → Nat
  | .sending _ => 2
  | .publishing notices (.startSession _) => 2 * notices.length + 13
  | .publishing notices _ => 2 * notices.length + 1
  | _ => 0

def sessionWork : Option SessionTask → Nat
  | none => 0
  | some (.working _) => 12
  | some (.publishing ..) => 14
  | some (.ended _) => 10

def ownerWork : ShutdownPhase → Nat
  | .inUse | .sendingFirst => 12
  | .draining => 7
  | .sendingSecond => 6
  | .awaitingExit => 1
  | .done => 0

/-- A bound on the steps that are left. -/
def work (state : Shutdown) : Nat :=
  (state.commands.messages.map commandWork).sum + state.events.messages.length +
    (state.decisions.messages.length + state.forgets.messages.length) +
    supervisorWork state.supervisor + sessionWork state.session + ownerWork state.owner

/-- A channel to the session contributes the number of its messages. -/
theorem passed_withPassed (state : Shutdown) (messages : Channel Unit 8)
    (channel : ForwardChannel) :
    (state.withPassed messages channel).decisions.messages.length +
        (state.withPassed messages channel).forgets.messages.length +
          (state.passed channel).messages.length =
      state.decisions.messages.length + state.forgets.messages.length +
        messages.messages.length := by
  cases channel <;> simp only [withPassed, passed] <;> omega

theorem dispatchIdle_work (command : RuntimeCommand) :
    supervisorWork (dispatchIdle command) < commandWork command := by
  cases command <;> simp [dispatchIdle, supervisorWork, commandWork]

theorem dispatch_work (command : RuntimeCommand) :
    supervisorWork (dispatch command) < commandWork command := by
  cases command <;> simp [dispatch, supervisorWork, commandWork]

theorem notices_work (result : SessionEnd) :
    supervisorWork (.publishing result.notices .idle) ≤ 5 := by
  cases result <;> decide

theorem work_lt (own : state.Own input) (steps : state.Steps input next) :
    next.work < state.work := by
  cases steps with
  | command => exact own.elim
  | tries => exact own.elim
  | announces => exact own.elim
  | delivers publishing sent =>
      simp only [work, publishing, Channel.messages_of_send sent, List.length_append,
        List.length_singleton, sessionWork]
      omega
  | enters => exact own.elim
  | @receives _ channel _ messages working _ taken =>
      have same := passed_withPassed state messages channel
      have fewer : (state.passed channel).messages.length = messages.messages.length + 1 := by
        rw [Channel.messages_of_receive taken, List.length_cons]
      simp only [work, working, sessionWork, withPassed_commands, withPassed_events,
        withPassed_supervisor, withPassed_owner]
      omega
  | ends working =>
      simp only [work, working, sessionWork]
      omega
  | @takesIdle command _ idle received =>
      have lower := dispatchIdle_work command
      have none : supervisorWork .idle = 0 := rfl
      simp only [work, idle, none, Channel.messages_of_receive received, List.map_cons,
        List.sum_cons]
      omega
  | @takes command _ running received =>
      have lower := dispatch_work command
      have none : supervisorWork .running = 0 := rfl
      simp only [work, running, none, Channel.messages_of_receive received, List.map_cons,
        List.sum_cons]
      omega
  | loses sending =>
      simp only [work, sending, supervisorWork]
      omega
  | @passes channel messages sending sent =>
      have same := passed_withPassed state messages channel
      have more : messages.messages.length = (state.passed channel).messages.length + 1 := by
        rw [Channel.messages_of_send sent, List.length_append, List.length_singleton]
      simp only [work, sending, supervisorWork, withPassed_commands, withPassed_events,
        withPassed_session, withPassed_owner]
      omega
  | @publishes _ _ after _ publishing sent =>
      simp only [work, publishing, Channel.messages_of_send sent, List.length_append,
        List.length_singleton]
      cases after <;> simp only [supervisorWork, List.length_cons] <;> omega
  | begins published =>
      simp only [work, published, startSession, supervisorWork, sessionWork, Channel.empty,
        List.length_nil]
      omega
  | @proceeds after published other =>
      simp only [work, published]
      cases after with
      | startSession kind => exact absurd rfl (other kind)
      | _ => simp [AfterNotices.phase, supervisorWork]
  | @noticesEnd result waits ended =>
      have told := notices_work result
      have longer := length_tryPublish state .other
      have same : (state.tryPublish .other).commands = state.commands := rfl
      have owner : (state.tryPublish .other).owner = state.owner := rfl
      have decisions : (state.tryPublish .other).decisions = state.decisions := rfl
      have forgets : (state.tryPublish .other).forgets = state.forgets := rfl
      simp only [work, ended, sessionWork, same, owner, decisions, forgets]
      omega
  | called => exact own.elim
  | findsGone sending gone =>
      rcases sending with sending | sending <;>
        simp only [work, sending, Shutdown.sent, ownerWork] <;> omega
  | sends sending sent =>
      rcases sending with sending | sending <;>
        simp only [work, sending, Shutdown.sent, ownerWork, Channel.messages_of_send sent,
          List.map_append, List.sum_append, List.map_singleton, List.sum_singleton,
          commandWork] <;> omega
  | uses _ received =>
      simp only [work, Channel.messages_of_receive received, List.length_cons]
      omega
  | @reads notice _ draining received =>
      simp only [work, draining, Channel.messages_of_receive received, List.length_cons]
      cases notice.final <;> simp [ownerWork]
  | readsLast draining gone =>
      simp only [work, draining, ownerWork]
      omega
  | completes waits gone =>
      simp only [work, waits, ownerWork]
      omega

/-! ## Where it ends -/

/-- A supervisor that waits is in the middle of something. -/
theorem SupervisorWaits.busy (waits : state.SupervisorWaits) :
    state.supervisor ≠ .idle ∧ state.supervisor ≠ .running ∧ state.supervisor ≠ .exited ∧
      ∀ after, state.supervisor ≠ .publishing [] after := by
  cases waits with
  | publishing phase => simp [phase]
  | sending phase => simp [phase]
  | awaiting phase => simp [phase]

theorem SupervisorWaits.of_publishing (waits : state.SupervisorWaits) {notice : Notice}
    {notices : List Notice} {after : AfterNotices}
    (publishing : state.supervisor = .publishing (notice :: notices) after) :
    state.events.Full := by
  cases waits with
  | publishing _ full => exact full
  | sending phase => cases publishing.symm.trans phase
  | awaiting phase => cases publishing.symm.trans phase

theorem SupervisorWaits.of_sending (waits : state.SupervisorWaits) {channel : ForwardChannel}
    (sending : state.supervisor = .sending channel) :
    (state.passed channel).Full ∧ ∀ result, state.session ≠ some (.ended result) := by
  cases waits with
  | publishing phase => cases sending.symm.trans phase
  | sending phase full alive =>
      cases sending.symm.trans phase
      exact ⟨full, alive⟩
  | awaiting phase => cases sending.symm.trans phase

theorem SupervisorWaits.of_awaiting (waits : state.SupervisorWaits)
    (awaiting : state.supervisor = .awaiting) :
    ∃ mode notice, state.session = some (.publishing mode notice) := by
  cases waits with
  | publishing phase => cases awaiting.symm.trans phase
  | sending phase => cases awaiting.symm.trans phase
  | awaiting _ publishing => exact ⟨_, _, publishing⟩

/-- A shutdown that is done goes no further by itself. -/
theorem Closing.rests_of_done (closing : state.Closing) (done : state.owner = .done) :
    Machine.Rests step Own state := by
  intro input own outputs next stepped
  have gone := closing.exited done
  have none : state.session = none := by
    have noSession := closing.session
    rw [gone] at noSession
    exact Option.isNone_iff_eq_none.mp (by simpa [hasSession] using noSession)
  cases step_steps stepped with
  | command | tries | announces | enters | called => exact own
  | delivers publishing => cases none.symm.trans publishing
  | receives working => cases none.symm.trans working
  | ends working => cases none.symm.trans working
  | takesIdle idle => cases gone.symm.trans idle
  | takes running => cases gone.symm.trans running
  | loses sending => cases gone.symm.trans sending
  | passes sending => cases gone.symm.trans sending
  | publishes publishing => cases gone.symm.trans publishing
  | begins published => cases gone.symm.trans published
  | proceeds published => cases gone.symm.trans published
  | noticesEnd _ ended => cases none.symm.trans ended
  | findsGone sending => rcases sending with sending | sending <;> cases done.symm.trans sending
  | sends sending => rcases sending with sending | sending <;> cases done.symm.trans sending
  | uses unused => cases done.symm.trans unused
  | reads draining => cases done.symm.trans draining
  | readsLast draining => cases done.symm.trans draining
  | completes waits => cases done.symm.trans waits

/-- A session that waits publishes nothing and takes nothing. -/
theorem SessionWaits.full (waits : state.SessionWaits) {mode : SessionMode} {notice : Notice}
    (publishing : state.session = some (.publishing mode notice)) : state.events.Full := by
  simpa only [SessionWaits, publishing] using waits

theorem SessionWaits.nothing (waits : state.SessionWaits) {mode : SessionMode}
    (working : state.session = some (.working mode)) {channel : ForwardChannel}
    (reads : mode.reads channel = true) : (state.passed channel).messages = [] := by
  simp only [SessionWaits, working] at waits
  exact waits channel reads

/-- A jammed shutdown goes no further by itself. -/
theorem Jammed.rests (jammed : state.Jammed) : Machine.Rests step Own state := by
  intro input own outputs next stepped
  obtain ⟨owner, session, supervisor⟩ := jammed
  obtain ⟨notIdle, notRunning, notExited, notPublished⟩ := supervisor.busy
  cases step_steps stepped with
  | command | tries | announces | enters | called => exact own
  | delivers publishing sent => exact Channel.not_full_of_send sent (session.full publishing)
  | receives working reads taken =>
      have messages := Channel.messages_of_receive taken
      rw [session.nothing working reads] at messages
      cases messages
  | ends working =>
      obtain ⟨_, _, publishing⟩ := supervisor.of_awaiting own
      cases working.symm.trans publishing
  | takesIdle idle => exact notIdle idle
  | takes running => exact notRunning running
  | loses sending ended => exact (supervisor.of_sending sending).2 _ ended
  | passes sending sent => exact Channel.not_full_of_send sent (supervisor.of_sending sending).1
  | publishes publishing sent =>
      exact Channel.not_full_of_send sent (supervisor.of_publishing publishing)
  | begins published => exact notPublished _ published
  | proceeds published => exact notPublished _ published
  | noticesEnd looks ended =>
      rcases looks with running | awaiting
      · exact notRunning running
      · obtain ⟨_, _, publishing⟩ := supervisor.of_awaiting awaiting
        cases ended.symm.trans publishing
  | findsGone _ gone => exact notExited gone
  | sends sending sent =>
      rcases owner with waits | ⟨_, full⟩ | ⟨draining, _⟩
      · rcases sending with sending | sending <;> cases waits.symm.trans sending
      · exact Channel.not_full_of_send sent full
      · rcases sending with sending | sending <;> cases draining.symm.trans sending
  | uses unused =>
      rcases owner with waits | ⟨sending | sending, _⟩ | ⟨draining, _⟩
      · cases unused.symm.trans waits
      · cases unused.symm.trans sending
      · cases unused.symm.trans sending
      · cases unused.symm.trans draining
  | reads draining received =>
      rcases owner with waits | ⟨sending | sending, _⟩ | ⟨_, unheard⟩
      · cases draining.symm.trans waits
      · cases draining.symm.trans sending
      · cases draining.symm.trans sending
      · rw [Channel.messages_of_receive received] at unheard
        cases unheard
  | readsLast _ gone => exact notExited gone
  | completes _ gone => exact notExited gone

/-- A shutdown that rests with a stop to send has no room for it. -/
theorem full_of_rests (rests : Machine.Rests step Own state)
    (sending : state.owner = .sendingFirst ∨ state.owner = .sendingSecond) :
    state.supervisor ≠ .exited ∧ state.commands.Full := by
  have blocked := rests .send trivial
  simp only [step, sending, if_true] at blocked
  split at blocked
  · exact absurd rfl (blocked _ _)
  · refine ⟨‹_›, Channel.full_of_refused .stop fun commands sent => ?_⟩
    simp only [sent] at blocked
    exact blocked _ _ rfl

/-- A shutdown that rests and reads has nothing to read. -/
theorem messages_of_rests (rests : Machine.Rests step Own state)
    (draining : state.owner = .draining) :
    state.supervisor ≠ .exited ∧ state.events.messages = [] := by
  have blocked := rests .read trivial
  simp only [step, draining, reduceCtorEq, if_true, if_false] at blocked
  split at blocked
  · exact absurd rfl (blocked _ _)
  · split at blocked
    · exact absurd rfl (blocked _ _)
    · exact ⟨‹_›, Channel.receive_eq_none.mp ‹_›⟩

/-- A shutdown that rests between two commands has none to take. -/
theorem commands_of_rests (rests : Machine.Rests step Own state)
    (takes : state.supervisor = .idle ∨ state.supervisor = .running) :
    state.commands.messages = [] := by
  refine Channel.receive_eq_none.mp (Option.eq_none_iff_forall_ne_some.mpr ?_)
  rintro ⟨command, commands⟩ received
  have blocked := rests .take trivial
  rcases takes with takes | takes <;> simp only [step, takes, received] at blocked <;>
    exact blocked _ _ rfl

/-- The owner of a shutdown that rests before it is done waits. -/
theorem ownerWaits_of_rests (rests : Machine.Rests step Own state) (called : state.owner ≠ .inUse)
    (going : state.owner ≠ .done) : state.OwnerWaits := by
  cases owner : state.owner with
  | inUse => exact absurd owner called
  | sendingFirst =>
      exact Or.inr (Or.inl ⟨Or.inl owner, (full_of_rests rests (Or.inl owner)).2⟩)
  | sendingSecond =>
      exact Or.inr (Or.inl ⟨Or.inr owner, (full_of_rests rests (Or.inr owner)).2⟩)
  | draining => exact Or.inr (Or.inr ⟨owner, (messages_of_rests rests owner).2⟩)
  | awaitingExit => exact Or.inl owner
  | done => exact absurd owner going

/-- The session of a shutdown that rests waits. -/
theorem sessionWaits_of_rests (rests : Machine.Rests step Own state) : state.SessionWaits := by
  unfold SessionWaits
  split
  · rename_i mode working
    intro channel reads
    refine Channel.receive_eq_none.mp (Option.eq_none_iff_forall_ne_some.mpr ?_)
    rintro ⟨message, messages⟩ taken
    have blocked := rests (.receive channel false) trivial
    simp only [step, working, reads, taken, if_true] at blocked
    exact blocked _ _ rfl
  · rename_i mode notice publishing
    refine Channel.full_of_refused notice fun events sent => ?_
    have blocked := rests .deliver trivial
    simp only [step, publishing, sent] at blocked
    exact blocked _ _ rfl
  · trivial

/-- A shutdown that goes on has a command to take, or its supervisor does something else. -/
theorem Closing.not_between (closing : state.Closing) (rests : Machine.Rests step Own state)
    (called : state.owner ≠ .inUse) (going : state.owner ≠ .done) :
    state.supervisor ≠ .idle ∧ state.supervisor ≠ .running := by
  rw [← not_or]
  intro takes
  have none := commands_of_rests rests takes
  have concludes := closing.concludes
  have stops := closing.stops
  rw [none] at concludes stops
  cases owner : state.owner with
  | inUse => exact called owner
  | sendingFirst =>
      have full := (full_of_rests rests (Or.inl owner)).2
      rw [Channel.Full, none] at full
      cases full
  | sendingSecond =>
      have full := (full_of_rests rests (Or.inr owner)).2
      rw [Channel.Full, none] at full
      cases full
  | draining =>
      have unheard := (messages_of_rests rests owner).2
      rw [unheard] at concludes
      rcases concludes owner with stop | ⟨_, member, _⟩ | concluding
      · cases stop
      · cases member
      · rcases takes with takes | takes <;> rw [takes] at concluding <;> exact concluding
  | awaitingExit =>
      rw [owner] at stops
      rcases takes with takes | takes <;> rw [takes] at stops <;> cases stops
  | done => exact going owner

/-- The supervisor of a shutdown that rests before it is done waits. -/
theorem Closing.supervisorWaits (closing : state.Closing) (rests : Machine.Rests step Own state)
    (called : state.owner ≠ .inUse) (going : state.owner ≠ .done) : state.SupervisorWaits := by
  cases supervisor : state.supervisor with
  | idle => exact absurd supervisor (closing.not_between rests called going).1
  | running => exact absurd supervisor (closing.not_between rests called going).2
  | exited =>
      cases owner : state.owner with
      | inUse => exact absurd owner called
      | sendingFirst => exact absurd supervisor (full_of_rests rests (Or.inl owner)).1
      | sendingSecond => exact absurd supervisor (full_of_rests rests (Or.inr owner)).1
      | draining => exact absurd supervisor (messages_of_rests rests owner).1
      | awaitingExit =>
          have blocked := rests .complete trivial
          simp [step, owner, supervisor] at blocked
      | done => exact absurd owner going
  | publishing notices after =>
      cases notices with
      | nil =>
          have blocked := rests .proceed trivial
          cases after <;> simp [step, supervisor] at blocked
      | cons notice notices =>
          refine .publishing supervisor (Channel.full_of_refused notice fun events sent => ?_)
          have blocked := rests .publish trivial
          simp [step, supervisor, sent] at blocked
  | sending channel =>
      have alive (result : SessionEnd) : state.session ≠ some (.ended result) := fun ended => by
        have blocked := rests .pass trivial
        simp [step, supervisor, ended] at blocked
      refine .sending supervisor (Channel.full_of_refused () fun messages sent => ?_) alive
      have blocked := rests .pass trivial
      cases session : state.session with
      | none => simp [step, supervisor, session, sent] at blocked
      | some task =>
          cases task with
          | ended result => exact alive result session
          | working | publishing => simp [step, supervisor, session, sent] at blocked
  | awaiting =>
      have started := closing.session
      rw [supervisor] at started
      obtain ⟨session, running⟩ := Option.isSome_iff_exists.mp started
      cases session with
      | working =>
          have blocked := rests (.ends .returned) supervisor
          simp [step, running] at blocked
      | ended result =>
          have blocked := rests .noticeEnd trivial
          simp [step, supervisor, running] at blocked
      | publishing mode notice => exact .awaiting supervisor running

/-- A shutdown that rests before it is done is jammed. -/
theorem Closing.jammed (closing : state.Closing) (rests : Machine.Rests step Own state)
    (called : state.owner ≠ .inUse) (going : state.owner ≠ .done) : state.Jammed :=
  ⟨ownerWaits_of_rests rests called going, sessionWaits_of_rests rests,
    closing.supervisorWaits rests called going⟩

theorem launched_closing : launched.Closing := ⟨rfl, by decide, nofun, nofun⟩

/-- A shutdown that is left alone comes to rest, and it is done then unless it is jammed: the
supervisor or its session waits for room for a notification and nobody reads any, or the supervisor
waits for room in a channel that the session does not read. -/
theorem shutdown_completes {inputs own : List ShutdownInput} {outputs owned : List Unit}
    {state final : Shutdown} (ran : Machine.run step launched inputs = .ok (outputs, state))
    (inTime : Machine.Along step InTime launched inputs) (called : state.owner ≠ .inUse)
    (alone : Machine.Along step Own state own)
    (ranOwn : Machine.run step state own = .ok (owned, final)) :
    own.length ≤ state.work ∧
      (Machine.Rests step Own final ↔ final.owner = .done ∨ final.Jammed) := by
  have closing : state.Closing := Machine.run_preserves_along
    (fun closing inTime stepped => closing.kept inTime (step_steps stepped)) launched_closing inTime
    ran
  obtain ⟨closed, stillCalled⟩ : final.Closing ∧ final.owner ≠ .inUse := by
    have kept {state next : Shutdown} {input : ShutdownInput} {outputs : List Unit}
        (holds : state.Closing ∧ state.owner ≠ .inUse) (own : Own state input)
        (stepped : state.step input = .ok (outputs, next)) :
        next.Closing ∧ next.owner ≠ .inUse := by
      have steps := step_steps stepped
      refine ⟨holds.1.kept (fun same => ?_) steps, called_kept holds.2 steps⟩
      obtain ⟨kind, rfl⟩ := same
      exact own.elim
    exact @Machine.run_preserves_along _ _ _ _ step Own
      (fun state => state.Closing ∧ state.owner ≠ .inUse) kept _ _ _ _ ⟨closing, called⟩ alone
      ranOwn
  constructor
  · have bounded := Machine.run_length_le
      (fun own stepped => work_lt own (step_steps stepped)) alone ranOwn
    exact (Nat.le_add_right _ _).trans bounded
  · constructor
    · intro rests
      exact or_iff_not_imp_left.mpr (closed.jammed rests stillCalled)
    · rintro (done | jammed)
      · exact closed.rests_of_done done
      · exact jammed.rests

/-- A session is stopped, and the supervisor exits. -/
theorem shutdown_completes_session : ∃ own final,
    Machine.run step ⟨.empty, ⟨[.status .starting], by decide⟩, .running,
      some (.working .serving), .empty, .empty, .sendingFirst⟩ own = .ok ([], final) ∧
      final.owner = .done ∧ Machine.Rests step Own final := by
  have ran : Machine.run step launched
      [.command (.start .host), .take, .publish, .proceed, .shutdown] =
    .ok ([], ⟨.empty, ⟨[.status .starting], by decide⟩, .running, some (.working .serving), .empty,
      .empty, .sendingFirst⟩) := rfl
  let own : List ShutdownInput := [.send, .take, .publish, .proceed, .ends .returned, .noticeEnd,
    .publish, .proceed, .read, .read, .read, .read, .send, .take, .publish, .proceed, .complete]
  have alone : Machine.Along step Own ⟨.empty, ⟨[.status .starting], by decide⟩, .running,
    some (.working .serving), .empty, .empty, .sendingFirst⟩ own := by decide
  exact ⟨own, _, rfl, rfl, (shutdown_completes ran (by decide) nofun alone rfl).2.mpr (Or.inl rfl)⟩

end Shutdown
end Rflow
