import Rflow.Foundation.Channel
import Rflow.Foundation.Machine
import Rflow.Wire.Pairing

/-!
# The supervisor and its session

The supervisor takes the commands of the application one after the other.  While a session runs it
passes pairing decisions and forgotten peers on to the session, through a channel each, and takes no
other command before the channel has room.  The session reads these channels at some of its waits
only.
-/

namespace Rflow

open Foundation

/-- A decision of the user about a pairing request. -/
structure PairingDecision where
  requestId : PairingRequestId
  accepted : Bool
  deriving DecidableEq

/-- The commands of the application, with what the supervisor passes on. -/
inductive AppCommand where
  | startHost
  | startClient
  | stop
  | updateConfig
  | acceptPairing (requestId : PairingRequestId)
  | rejectPairing (requestId : PairingRequestId)
  | replaceTopology
  | applyLayout
  | forgetPeer (deviceId : DeviceId)
  deriving DecidableEq

/-- A message for the session. -/
inductive Forwarded where
  | decision (decision : PairingDecision)
  | forget (deviceId : DeviceId)
  deriving DecidableEq

inductive ForwardChannel where
  | decisions
  | forgets
  deriving DecidableEq

def Forwarded.channel : Forwarded → ForwardChannel
  | decision _ => .decisions
  | forget _ => .forgets

/-- What the supervisor passes on to a running session. -/
def AppCommand.forwarded : AppCommand → Option Forwarded
  | acceptPairing requestId => some (.decision { requestId, accepted := true })
  | rejectPairing requestId => some (.decision { requestId, accepted := false })
  | forgetPeer deviceId => some (.forget deviceId)
  | _ => none

/-- Where a session is, as far as it matters for the channels of the supervisor. -/
inductive SessionMode where
  | client
  /-- The host is at its loop, or about to be. -/
  | serving
  /-- The host sets a peer up. -/
  | settingUp
  /-- The host waits for the decision about a request of the peer that it sets up. -/
  | deciding (requestId : PairingRequestId)
  deriving DecidableEq

namespace SessionMode

/-- The session receives from a channel in this mode. -/
def reads : SessionMode → ForwardChannel → Bool
  | serving, .forgets | deciding _, .decisions => true
  | _, _ => false

/-- The session can go from one mode to another without receiving anything. -/
def leadsTo : SessionMode → SessionMode → Bool
  | serving, settingUp | settingUp, serving | settingUp, deciding _ | deciding _, settingUp => true
  | _, _ => false

end SessionMode

/-- What the supervisor waits for. -/
inductive SupervisorWait where
  /-- A command, without a session. -/
  | idle
  /-- The end of the session or a command. -/
  | selecting
  /-- Room for a message to the session. -/
  | sending (message : Forwarded)
  /-- The end of the session that has been told to stop. -/
  | stopping
  | terminated
  deriving DecidableEq

structure Supervision where
  commands : Channel AppCommand 16
  supervisor : SupervisorWait
  /-- The mode of the session, until it ends. -/
  session : Option SessionMode
  decisions : Channel PairingDecision 8
  forgets : Channel DeviceId 8
  deriving DecidableEq

inductive SupervisionInput where
  /-- The application sends a command. -/
  | command (command : AppCommand)
  /-- The supervisor takes the next command. -/
  | take
  /-- The message that the supervisor sends finds room, or nobody to receive it. -/
  | sent
  /-- The session goes on in another mode. -/
  | enter (mode : SessionMode)
  | readDecision
  | readForget
  | sessionEnds
  /-- The supervisor notices the end of the session. -/
  | finished

namespace Supervision

/-- The supervisor when it starts. -/
def start : Supervision where
  commands := .empty
  supervisor := .idle
  session := none
  decisions := .empty
  forgets := .empty

/-- A channel to the session has no room. -/
def Full (state : Supervision) : ForwardChannel → Prop
  | .decisions => state.decisions.Full
  | .forgets => state.forgets.Full

instance (state : Supervision) : (channel : ForwardChannel) → Decidable (state.Full channel)
  | .decisions => inferInstanceAs (Decidable state.decisions.Full)
  | .forgets => inferInstanceAs (Decidable state.forgets.Full)

/-- Start a session with new channels. -/
def startSession (state : Supervision) (mode : SessionMode) : Supervision :=
  { state with
    supervisor := .selecting, session := some mode, decisions := .empty, forgets := .empty }

/-- Put a message into its channel, if there is room. -/
def push (state : Supervision) : Forwarded → Option Supervision
  | .decision decision =>
      (state.decisions.send decision).map fun decisions => { state with decisions }
  | .forget deviceId => (state.forgets.send deviceId).map fun forgets => { state with forgets }

/-- Send a message to the session, or wait for room.  Without a receiver the message is lost. -/
def forward (state : Supervision) (message : Forwarded) : Supervision :=
  if state.session = none then
    { state with supervisor := .selecting }
  else
    match state.push message with
    | some sent => { sent with supervisor := .selecting }
    | none => { state with supervisor := .sending message }

/-- A command without a session. -/
def dispatchIdle (state : Supervision) : AppCommand → Supervision
  | .startHost => state.startSession .serving
  | .startClient => state.startSession .client
  | .stop => { state with supervisor := .terminated }
  | _ => state

/-- A command while a session runs. -/
def dispatch (state : Supervision) (command : AppCommand) : Supervision :=
  if command = .stop then
    { state with supervisor := .stopping }
  else
    match command.forwarded with
    | some message => state.forward message
    | none => state

def step : Machine.Step Supervision SupervisionInput Unit Unit := fun state input =>
  match input with
  | .command command =>
      match state.commands.send command with
      | some commands => .ok ([], { state with commands })
      | none => .err ()
  | .take =>
      match state.supervisor, state.commands.receive with
      | .idle, some (command, commands) => .ok ([], { state with commands }.dispatchIdle command)
      | .selecting, some (command, commands) => .ok ([], { state with commands }.dispatch command)
      | _, _ => .err ()
  | .sent =>
      match state.supervisor with
      | .sending message =>
          if (state.forward message).supervisor = .sending message then
            .err ()
          else
            .ok ([], state.forward message)
      | _ => .err ()
  | .enter mode =>
      match state.session with
      | some current =>
          if current.leadsTo mode then .ok ([], { state with session := some mode }) else .err ()
      | none => .err ()
  | .readDecision =>
      match state.session, state.decisions.receive with
      | some (.deciding requestId), some (decision, decisions) =>
          .ok ([], { state with
            decisions
            session := some (if decision.requestId = requestId then .settingUp
              else .deciding requestId) })
      | _, _ => .err ()
  | .readForget =>
      match state.session, state.forgets.receive with
      | some .serving, some (_, forgets) => .ok ([], { state with forgets })
      | _, _ => .err ()
  | .sessionEnds =>
      if state.session.isSome then .ok ([], { state with session := none }) else .err ()
  | .finished =>
      if state.session = none ∧ (state.supervisor = .selecting ∨ state.supervisor = .stopping) then
        .ok ([], { state with supervisor := .idle })
      else
        .err ()

/-! ## Sending -/

variable {state next : Supervision} {input : SupervisionInput} {outputs : List Unit}
  {message : Forwarded} {mode : SessionMode}

theorem push_eq_none : state.push message = none ↔ state.Full message.channel := by
  cases message with
  | decision decision => exact Option.map_eq_none_iff.trans Channel.send_eq_none
  | forget deviceId => exact Option.map_eq_none_iff.trans Channel.send_eq_none

theorem push_commands (sent : state.push message = some next) : next.commands = state.commands := by
  cases message with
  | decision decision =>
      obtain ⟨_, _, rfl⟩ := Option.map_eq_some_iff.mp sent
      rfl
  | forget deviceId =>
      obtain ⟨_, _, rfl⟩ := Option.map_eq_some_iff.mp sent
      rfl

/-- A message for a full channel of a running session: the supervisor waits. -/
theorem forward_eq (running : state.session = some mode) (full : state.Full message.channel) :
    state.forward message = { state with supervisor := .sending message } := by
  rw [forward, if_neg (by simp [running]), push_eq_none.mpr full]

/-- A message that finds room, or that nobody receives: the supervisor goes on. -/
theorem forward_selecting (room : state.session = none ∨ ¬ state.Full message.channel) :
    (state.forward message).supervisor = .selecting ∧
      (state.forward message).commands = state.commands := by
  unfold forward
  split_ifs with ended
  · exact ⟨rfl, rfl⟩
  · have notRefused := mt push_eq_none.mp (room.resolve_left ended)
    obtain ⟨sent, pushed⟩ := Option.ne_none_iff_exists'.mp notRefused
    simp only [pushed]
    exact ⟨trivial, push_commands pushed⟩

/-! ## Waiting for a session that does not read -/

/-- The supervisor waits for room in a full channel that the session does not read in its mode. -/
def Stuck (state : Supervision) : Prop :=
  ∃ message mode, state.supervisor = .sending message ∧ state.session = some mode ∧
    state.Full message.channel ∧ mode.reads message.channel = false

/-- A full channel that is needed is read: a command that the supervisor passes on has room or a
session that reads its channel, and the session does not leave the wait that reads a full channel
for which the supervisor waits. -/
def KeepsReading (state : Supervision) : SupervisionInput → Prop
  | .take =>
      state.supervisor = .selecting → ∀ command commands message mode,
        state.commands.receive = some (command, commands) → command.forwarded = some message →
        state.session = some mode → ¬ state.Full message.channel ∨ mode.reads message.channel = true
  | .enter mode =>
      ∀ message, state.supervisor = .sending message →
        ¬ state.Full message.channel ∨ mode.reads message.channel = true
  | _ => True

/-- A supervisor that does not send is not stuck. -/
theorem not_stuck_of_supervisor (other : ∀ message, state.supervisor ≠ .sending message) :
    ¬ state.Stuck := by
  rintro ⟨message, _, sends, _⟩
  exact other message sends

theorem not_stuck_of_session (ended : state.session = none) : ¬ state.Stuck := by
  rintro ⟨_, _, _, running, _⟩
  cases ended.symm.trans running

theorem dispatchIdle_supervisor (idle : state.supervisor = .idle) (command : AppCommand) :
    (state.dispatchIdle command).supervisor ≠ .sending message := by
  cases command <;> simp [dispatchIdle, startSession, idle]

/-- A message that is passed on gets the supervisor stuck when its channel is full and not read. -/
theorem forward_stuck_iff :
    ¬ (state.forward message).Stuck ↔
      ∀ mode, state.session = some mode →
        ¬ state.Full message.channel ∨ mode.reads message.channel = true := by
  by_cases room : state.session = none ∨ ¬ state.Full message.channel
  · refine iff_of_true (not_stuck_of_supervisor fun other sends => ?_) fun mode running => ?_
    · cases (forward_selecting room).1.symm.trans sends
    · exact Or.inl (room.resolve_left (by simp [running]))
  · rw [not_or, not_not] at room
    obtain ⟨running, full⟩ := room
    obtain ⟨mode, running⟩ := Option.ne_none_iff_exists'.mp running
    have stuck_iff : (state.forward message).Stuck ↔ mode.reads message.channel = false := by
      rw [forward_eq running full]
      constructor
      · rintro ⟨_, _, ⟨⟩, again, _, unread⟩
        obtain rfl := Option.some.inj (running.symm.trans again)
        exact unread
      · exact fun unread => ⟨message, mode, rfl, running, full, unread⟩
    simp [stuck_iff, running, full]

/-- Taking a command gets the supervisor stuck exactly when its channel is full and not read. -/
theorem take_stuck_iff (stepped : state.step .take = .ok (outputs, next)) :
    ¬ next.Stuck ↔ state.KeepsReading .take := by
  simp only [step] at stepped
  split at stepped
  · rename_i command commands idle received
    obtain ⟨_, rfl⟩ := Prod.mk.inj (Outcome.ok.inj stepped)
    refine iff_of_true (not_stuck_of_supervisor fun message => ?_) fun selecting => ?_
    · exact dispatchIdle_supervisor (by exact idle) command
    · cases idle.symm.trans selecting
  · rename_i command commands selecting received
    obtain ⟨_, rfl⟩ := Prod.mk.inj (Outcome.ok.inj stepped)
    have keeps_iff : state.KeepsReading .take ↔ ∀ message, command.forwarded = some message →
        ∀ mode, state.session = some mode →
          ¬ state.Full message.channel ∨ mode.reads message.channel = true := by
      constructor
      · intro keeps message forwarded mode running
        exact keeps selecting command commands message mode received forwarded running
      · intro reads _ other rest message mode again forwarded running
        obtain ⟨rfl, rfl⟩ := Prod.mk.inj (Option.some.inj (received.symm.trans again))
        exact reads message forwarded mode running
    rw [keeps_iff, dispatch]
    split_ifs with stops
    · refine iff_of_true (not_stuck_of_supervisor (by simp)) fun message forwarded => ?_
      cases (congrArg AppCommand.forwarded stops).symm.trans forwarded
    · cases forwarded : command.forwarded with
      | none => exact iff_of_true (not_stuck_of_supervisor (by simp [selecting])) (by simp)
      | some message =>
          rw [forward_stuck_iff]
          simp only [Option.some.injEq, forall_eq']
          exact Iff.rfl
  · cases stepped

/-- A decision is read by a host that waits for one. -/
theorem step_readDecision (stepped : state.step .readDecision = .ok (outputs, next)) :
    ∃ requestId decision decisions, state.session = some (.deciding requestId) ∧
      state.decisions.receive = some (decision, decisions) ∧
      next = { state with
        decisions
        session := some (if decision.requestId = requestId then .settingUp
          else .deciding requestId) } := by
  simp only [step] at stepped
  split at stepped
  · rename_i requestId decision decisions decides received
    obtain ⟨_, rfl⟩ := Prod.mk.inj (Outcome.ok.inj stepped)
    exact ⟨requestId, decision, decisions, decides, received, rfl⟩
  · cases stepped

/-- A device to forget is read by a host at its loop. -/
theorem step_readForget (stepped : state.step .readForget = .ok (outputs, next)) :
    ∃ deviceId forgets, state.session = some .serving ∧
      state.forgets.receive = some (deviceId, forgets) ∧ next = { state with forgets } := by
  simp only [step] at stepped
  split at stepped
  · rename_i deviceId forgets serves received
    obtain ⟨_, rfl⟩ := Prod.mk.inj (Outcome.ok.inj stepped)
    exact ⟨deviceId, forgets, serves, received, rfl⟩
  · cases stepped

/-- A step that is not taken from a stuck state leads to a stuck state exactly when a full channel
that is needed is not read any more. -/
theorem step_stuck_iff (free : ¬ state.Stuck)
    (stepped : state.step input = .ok (outputs, next)) :
    ¬ next.Stuck ↔ state.KeepsReading input := by
  cases input with
  | take => exact take_stuck_iff stepped
  | command command =>
      simp only [step] at stepped
      split at stepped
      · obtain ⟨_, rfl⟩ := Prod.mk.inj (Outcome.ok.inj stepped)
        exact iff_of_true free trivial
      · cases stepped
  | sent =>
      simp only [step] at stepped
      split at stepped
      · rename_i message sends
        split_ifs at stepped with waits
        obtain ⟨_, rfl⟩ := Prod.mk.inj (Outcome.ok.inj stepped)
        have moves : ¬ (state.forward message).Stuck := by
          refine forward_stuck_iff.mpr fun mode running => Or.inl fun full => waits ?_
          rw [forward_eq running full]
        exact iff_of_true moves trivial
      · cases stepped
  | enter mode =>
      simp only [step] at stepped
      split at stepped
      · split_ifs at stepped
        obtain ⟨_, rfl⟩ := Prod.mk.inj (Outcome.ok.inj stepped)
        constructor
        · intro goesOn message sends
          by_contra unread
          rw [not_or, not_not, Bool.not_eq_true] at unread
          exact goesOn ⟨message, mode, sends, rfl, unread⟩
        · rintro keeps ⟨message, _, sends, ⟨⟩, full, unread⟩
          rcases keeps message sends with room | reads
          · exact room full
          · cases unread.symm.trans reads
      · cases stepped
  | readDecision =>
      obtain ⟨requestId, decision, decisions, decides, received, rfl⟩ := step_readDecision stepped
      refine iff_of_true ?_ trivial
      rintro ⟨message, _, sends, _, full, _⟩
      cases message with
      | decision other => exact Channel.not_full_of_receive received full
      | forget deviceId => exact free ⟨_, _, sends, decides, full, rfl⟩
  | readForget =>
      obtain ⟨deviceId, forgets, serves, received, rfl⟩ := step_readForget stepped
      refine iff_of_true ?_ trivial
      rintro ⟨message, _, sends, _, full, _⟩
      cases message with
      | decision other => exact free ⟨_, _, sends, serves, full, rfl⟩
      | forget other => exact Channel.not_full_of_receive received full
  | sessionEnds =>
      simp only [step] at stepped
      split_ifs at stepped
      obtain ⟨_, rfl⟩ := Prod.mk.inj (Outcome.ok.inj stepped)
      exact iff_of_true (not_stuck_of_session rfl) trivial
  | finished =>
      simp only [step] at stepped
      split_ifs at stepped
      obtain ⟨_, rfl⟩ := Prod.mk.inj (Outcome.ok.inj stepped)
      exact iff_of_true (not_stuck_of_supervisor (by simp)) trivial

/-! ## Getting to the next command -/

/-- A step that only needs what the session reads in its mode. -/
def OnlyReads (input : SupervisionInput) : Prop :=
  input = .sent ∨ input = .readDecision ∨ input = .readForget

/-- If the supervisor waits for room, then it gets back to its commands as long as the session reads
on in its mode. -/
def Resumes (state : Supervision) : Prop :=
  ∀ message, state.supervisor = .sending message →
    ∃ inputs outputs next, (∀ input ∈ inputs, OnlyReads input) ∧
      Machine.run step state inputs = .ok (outputs, next) ∧
      next.supervisor = .selecting ∧ next.commands = state.commands

theorem step_sent (sends : state.supervisor = .sending message)
    (room : state.session = none ∨ ¬ state.Full message.channel) :
    state.step .sent = .ok ([], state.forward message) := by
  have goesOn : (state.forward message).supervisor ≠ .sending message := by
    rw [(forward_selecting room).1]
    simp
  simp only [step, sends, goesOn, if_false]

/-- A session that reads the channel makes room in it. -/
theorem exists_read (running : state.session = some mode) (full : state.Full message.channel)
    (reads : mode.reads message.channel = true) :
    ∃ input next, OnlyReads input ∧ state.step input = .ok ([], next) ∧
      next.supervisor = state.supervisor ∧ next.commands = state.commands ∧
      ¬ next.Full message.channel := by
  cases message with
  | decision decision =>
      cases mode with
      | deciding requestId =>
          obtain ⟨read, decisions, received⟩ := Channel.Full.exists_receive full (by simp)
          exact ⟨.readDecision, { state with
              decisions
              session := some (if read.requestId = requestId then .settingUp
                else .deciding requestId) },
            Or.inr (Or.inl rfl), by simp only [step, running, received], rfl, rfl,
            Channel.not_full_of_receive received⟩
      | _ => cases reads
  | forget deviceId =>
      cases mode with
      | serving =>
          obtain ⟨_, forgets, received⟩ := Channel.Full.exists_receive full (by simp)
          exact ⟨.readForget, { state with forgets }, Or.inr (Or.inr rfl),
            by simp only [step, running, received], rfl, rfl, Channel.not_full_of_receive received⟩
      | _ => cases reads

/-- While the session only reads on in its mode, a stuck supervisor stays stuck. -/
theorem Stuck.step (stuck : state.Stuck) (onlyReads : OnlyReads input)
    (stepped : state.step input = .ok (outputs, next)) : next.Stuck := by
  obtain ⟨message, mode, sends, running, full, unread⟩ := stuck
  rcases onlyReads with rfl | rfl | rfl
  · simp only [Supervision.step, sends, forward_eq running full, if_true] at stepped
    cases stepped
  · obtain ⟨requestId, decision, decisions, decides, received, rfl⟩ := step_readDecision stepped
    obtain rfl := Option.some.inj (decides.symm.trans running)
    cases message with
    | decision other => cases unread
    | forget deviceId => exact ⟨_, _, sends, rfl, full, by split_ifs <;> rfl⟩
  · obtain ⟨deviceId, forgets, serves, received, rfl⟩ := step_readForget stepped
    obtain rfl := Option.some.inj (serves.symm.trans running)
    cases message with
    | decision other => exact ⟨_, _, sends, serves, full, rfl⟩
    | forget other => cases unread

/-- The supervisor gets back to its commands exactly when it is not stuck. -/
theorem resumes_iff : state.Resumes ↔ ¬ state.Stuck := by
  constructor
  · intro resumes stuck
    obtain ⟨message, sends⟩ : ∃ message, state.supervisor = .sending message :=
      stuck.imp fun _ ⟨_, sends, _⟩ => sends
    obtain ⟨inputs, outputs, next, onlyReads, ran, selecting, _⟩ := resumes message sends
    obtain ⟨other, _, stillSends, _⟩ := Machine.run_preserves_on Stuck.step stuck onlyReads ran
    cases selecting.symm.trans stillSends
  · intro free message sends
    by_cases room : state.session = none ∨ ¬ state.Full message.channel
    · obtain ⟨selecting, commands⟩ := forward_selecting room
      exact ⟨[.sent], [], _, by simp [OnlyReads],
        Machine.run_singleton_eq_ok.mpr (step_sent sends room), selecting, commands⟩
    · rw [not_or, not_not] at room
      obtain ⟨running, full⟩ := room
      obtain ⟨mode, running⟩ := Option.ne_none_iff_exists'.mp running
      have reads : mode.reads message.channel = true := by
        by_contra unread
        exact free ⟨message, mode, sends, running, full, Bool.eq_false_iff.mpr unread⟩
      obtain ⟨input, next, onlyReads, stepped, supervisor, commands, room⟩ :=
        exists_read running full reads
      have goesOn : (next.forward message).supervisor = .selecting ∧
          (next.forward message).commands = next.commands := forward_selecting (Or.inr room)
      refine ⟨[input, .sent], [], _, ?_, Machine.run_cons_eq_ok.mpr ⟨[], next, [], stepped,
        Machine.run_singleton_eq_ok.mpr (step_sent (supervisor.trans sends) (Or.inr room)), rfl⟩,
        goesOn.1, goesOn.2.trans commands⟩
      simpa [OnlyReads] using onlyReads

/-- In every run the supervisor is never stuck at a channel that its session does not read, and
always gets back to its commands, exactly when every full channel that is needed keeps being
read. -/
theorem supervisor_resumes_iff {inputs : List SupervisionInput} {final : Supervision}
    (ran : Machine.run step start inputs = .ok (outputs, final)) :
    Machine.Throughout step (fun state => ¬ state.Stuck ∧ state.Resumes) start inputs ↔
      Machine.Along step KeepsReading start inputs := by
  have property (state : Supervision) : (¬ state.Stuck ∧ state.Resumes) ↔ ¬ state.Stuck := by
    rw [resumes_iff, and_self]
  simp only [property]
  have kept {state next : Supervision} {input : SupervisionInput} {outputs : List Unit} (_ : True)
      (free : ¬ state.Stuck) (_ : True) (stepped : state.step input = .ok (outputs, next)) :
      True ∧ (¬ next.Stuck ↔ state.KeepsReading input) := ⟨trivial, step_stuck_iff free stepped⟩
  exact Machine.throughout_iff_along kept trivial (not_stuck_of_session rfl)
    (fun _ _ => trivial) ran

/-- A host is passed a decision about a request that is over; its channel has room. -/
theorem supervisor_resumes_late_decision :
    Machine.Throughout step (fun state => ¬ state.Stuck ∧ state.Resumes) start
      [.command .startHost, .take, .command (.acceptPairing ⟨0⟩), .take] := by
  have ran : ∃ final, Machine.run step start
      [.command .startHost, .take, .command (.acceptPairing ⟨0⟩), .take] = .ok ([], final) :=
          ⟨_, rfl⟩
  obtain ⟨final, ran⟩ := ran
  refine (supervisor_resumes_iff ran).mpr ?_
  iterate 3
    rw [Machine.along_cons rfl]
    refine ⟨by simp [KeepsReading, start], ?_⟩
  refine ⟨fun _ command commands message mode received forwarded _ => Or.inl ?_,
    fun _ _ _ => trivial⟩
  obtain ⟨rfl, _⟩ := Prod.mk.inj (Option.some.inj received)
  obtain rfl := Option.some.inj forwarded
  decide

/-- A client session is running: eight decisions fill their channel, the supervisor waits for room
for the ninth, and the stop behind it is never taken. -/
theorem ninth_decision_blocks_stop :
    ∃ final, Machine.run step start
        (.command .startClient :: .take ::
          (List.replicate 9 [.command (.acceptPairing ⟨0⟩), .take]).flatten ++ [.command .stop]) =
        .ok ([], final) ∧
      final.commands.messages = [.stop] ∧ final.Stuck ∧ ¬ final.Resumes := by
  have blocked : ∃ final, Machine.run step start
      (.command .startClient :: .take ::
        (List.replicate 9 [.command (.acceptPairing ⟨0⟩), .take]).flatten ++ [.command .stop]) =
        .ok ([], final) ∧ final.commands.messages = [.stop] ∧ final.Stuck :=
    ⟨_, rfl, rfl, .decision ⟨⟨0⟩, true⟩, .client, rfl, rfl, rfl, rfl⟩
  obtain ⟨final, ran, queued, stuck⟩ := blocked
  exact ⟨final, ran, queued, stuck, fun resumes => resumes_iff.mp resumes stuck⟩

end Supervision
end Rflow
