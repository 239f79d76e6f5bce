import Rflow.Foundation.Progress
import Rflow.Input.CaptureRuns

/-!
# The start of a capture

Each thread opens its device and reports once that it is ready, or that it has failed.  The caller
waits for as many reports as there are devices.  At the first failure it tells the threads to stop
and joins them, while the receiver of their input is neither read nor closed.
-/

namespace Rflow

open Foundation

/-- What has become of the device of a thread. -/
inductive DeviceOpen where
  | opening
  | opened
  | refused
  deriving DecidableEq

/-- What a thread reports to the caller. -/
inductive ReadyMessage where
  | ready
  | failed (error : String)
  deriving DecidableEq

/-- What the caller is at. -/
inductive StartupPhase where
  | waiting (ready : Nat)
  /-- The threads are told to stop and are joined. -/
  | joining (error : String)
  | failed (error : String)
  | started
  deriving DecidableEq

structure CaptureStartup (devices : Nat) where
  capture : Capture devices
  opens : Fin devices → DeviceOpen
  messages : List ReadyMessage
  phase : StartupPhase

inductive StartupInput (devices : Nat) where
  /-- The thread of a device opens and grabs it, or fails with an error. -/
  | openDevice (source : Fin devices) (error : Option String)
  /-- A thread goes on with its capture. -/
  | work (input : CaptureInput devices)
  /-- A thread notices that it is to stop. -/
  | notice (source : Fin devices)
  /-- A thread cannot read its device. -/
  | fail (source : Fin devices) (error : String)
  /-- The caller takes the next report. -/
  | receive
  /-- The caller has joined all threads. -/
  | join
  deriving DecidableEq

/-- The thread that goes on with its capture. -/
def CaptureInput.worker {devices : Nat} : CaptureInput devices → Option (Fin devices)
  | poll source | fetch source _ | advance source _ | call source => some source
  | _ => none

/-- How many keys, buttons and scrolls a thread reads from its device. -/
def CaptureInput.read {devices : Nat} : CaptureInput devices → Nat
  | fetch _ events => (Batch.inputs { events, dx := 0, dy := 0 }).length
  | _ => 0

def StartupInput.read {devices : Nat} : StartupInput devices → Nat
  | work input => input.read
  | _ => 0

/-- How many keys, buttons and scrolls are in the channel or held by a thread. -/
def Capture.load {devices : Nat} (capture : Capture devices) : Nat :=
  capture.reliable.messages.length + ∑ source, (capture.threads source).inputs.length

/-- The error that a thread reports. -/
def StartupInput.reported {devices : Nat} : StartupInput devices → Option String
  | openDevice _ error => error
  | fail _ error => some error
  | _ => none

namespace CaptureStartup

variable {devices : Nat}

def start (devices : Nat) : CaptureStartup devices where
  capture := .start devices
  opens := fun _ => .opening
  messages := []
  phase := if devices = 0 then .started else .waiting 0

/-- The threads are told to stop. -/
def Raised (startup : CaptureStartup devices) : Prop :=
  match startup.phase with
  | .joining _ | .failed _ => True
  | .waiting _ | .started => False

instance (startup : CaptureStartup devices) : Decidable startup.Raised := by
  unfold Raised
  split <;> infer_instance

def step : Machine.Step (CaptureStartup devices) (StartupInput devices) Empty Unit
  | startup, .openDevice source error =>
      if startup.opens source = .opening then
        match error with
        | none =>
            .ok ([], { startup with
              opens := Function.update startup.opens source .opened
              messages := startup.messages ++ [.ready] })
        | some error =>
            .ok ([], { startup with
              capture := startup.capture.placing source .ended
              opens := Function.update startup.opens source .refused
              messages := startup.messages ++ [.failed error] })
      else
        .err ()
  | startup, .work input =>
      match input.worker with
      | some source =>
          if startup.opens source = .opened ∧ ¬ (startup.Raised ∧ input = .poll source) then
            match startup.capture.step input with
            | .ok (_, capture) => .ok ([], { startup with capture })
            | _ => .err ()
          else
            .err ()
      | none => .err ()
  | startup, .notice source =>
      if startup.opens source = .opened ∧ startup.Raised ∧
          startup.capture.threads source = .polling then
        .ok ([], { startup with capture := startup.capture.placing source .ended })
      else
        .err ()
  | startup, .fail source error =>
      if startup.opens source = .opened ∧ startup.capture.threads source = .fetching then
        .ok ([], { startup with
          capture := startup.capture.placing source .ended
          messages := startup.messages ++ [.failed error] })
      else
        .err ()
  | startup, .receive =>
      match startup.phase, startup.messages with
      | .waiting ready, .ready :: messages =>
          .ok ([], { startup with
            messages
            phase := if ready + 1 = devices then .started else .waiting (ready + 1) })
      | .waiting _, .failed error :: messages =>
          .ok ([], { startup with
            messages, phase := .joining ("input capture failed before startup: " ++ error) })
      | .waiting _, [] =>
          if startup.capture.AllEnded then
            .ok ([], { startup with
              phase := .joining "input capture stopped before startup completed" })
          else
            .err ()
      | _, _ => .err ()
  | startup, .join =>
      match startup.phase with
      | .joining error =>
          if startup.capture.AllEnded then
            .ok ([], { startup with phase := .failed error })
          else
            .err ()
      | _ => .err ()

/-! ## What a step does -/

variable {startup next : CaptureStartup devices} {input : StartupInput devices}
  {outputs : List Empty} {source : Fin devices}

inductive Steps (startup : CaptureStartup devices) :
    StartupInput devices → CaptureStartup devices → Prop
  | opened {source : Fin devices} (opening : startup.opens source = .opening) :
      Steps startup (.openDevice source none)
        { startup with
          opens := Function.update startup.opens source .opened
          messages := startup.messages ++ [.ready] }
  | refused {source : Fin devices} {error : String} (opening : startup.opens source = .opening) :
      Steps startup (.openDevice source (some error))
        { startup with
          capture := startup.capture.placing source .ended
          opens := Function.update startup.opens source .refused
          messages := startup.messages ++ [.failed error] }
  | worked {source : Fin devices} {input : CaptureInput devices} {called : List CaptureOutput}
      {capture : Capture devices} (worker : input.worker = some source)
      (opened : startup.opens source = .opened)
      (stepped : startup.capture.step input = .ok (called, capture)) :
      Steps startup (.work input) { startup with capture }
  | noticed {source : Fin devices} (opened : startup.opens source = .opened)
      (raised : startup.Raised) (polling : startup.capture.threads source = .polling) :
      Steps startup (.notice source)
        { startup with capture := startup.capture.placing source .ended }
  | broke {source : Fin devices} {error : String} (opened : startup.opens source = .opened)
      (fetching : startup.capture.threads source = .fetching) :
      Steps startup (.fail source error)
        { startup with
          capture := startup.capture.placing source .ended
          messages := startup.messages ++ [.failed error] }
  | counted {ready : Nat} {messages : List ReadyMessage} (waiting : startup.phase = .waiting ready)
      (first : startup.messages = .ready :: messages) :
      Steps startup .receive
        { startup with
          messages
          phase := if ready + 1 = devices then .started else .waiting (ready + 1) }
  | warned {ready : Nat} {error : String} {messages : List ReadyMessage}
      (waiting : startup.phase = .waiting ready)
      (first : startup.messages = .failed error :: messages) :
      Steps startup .receive
        { startup with
          messages, phase := .joining ("input capture failed before startup: " ++ error) }
  | abandoned {ready : Nat} (waiting : startup.phase = .waiting ready)
      (none : startup.messages = []) (ended : startup.capture.AllEnded) :
      Steps startup .receive
        { startup with phase := .joining "input capture stopped before startup completed" }
  | joined {error : String} (joining : startup.phase = .joining error)
      (ended : startup.capture.AllEnded) :
      Steps startup .join { startup with phase := .failed error }

theorem step_steps (stepped : step startup input = .ok (outputs, next)) :
    startup.Steps input next := by
  cases input with
  | openDevice source error =>
      simp only [step] at stepped
      split_ifs at stepped with opening
      cases error with
      | none =>
          obtain ⟨-, rfl⟩ := Prod.mk.inj (Outcome.ok.inj stepped)
          exact .opened opening
      | some error =>
          obtain ⟨-, rfl⟩ := Prod.mk.inj (Outcome.ok.inj stepped)
          exact .refused opening
  | work input =>
      simp only [step] at stepped
      split at stepped
      · rename_i source worker
        split_ifs at stepped with free
        split at stepped
        · rename_i called capture captured
          obtain ⟨-, rfl⟩ := Prod.mk.inj (Outcome.ok.inj stepped)
          exact .worked worker free.1 captured
        · cases stepped
      · cases stepped
  | notice source =>
      simp only [step] at stepped
      split_ifs at stepped with stops
      obtain ⟨-, rfl⟩ := Prod.mk.inj (Outcome.ok.inj stepped)
      exact .noticed stops.1 stops.2.1 stops.2.2
  | fail source error =>
      simp only [step] at stepped
      split_ifs at stepped with reads
      obtain ⟨-, rfl⟩ := Prod.mk.inj (Outcome.ok.inj stepped)
      exact .broke reads.1 reads.2
  | receive =>
      simp only [step] at stepped
      split at stepped
      · obtain ⟨-, rfl⟩ := Prod.mk.inj (Outcome.ok.inj stepped)
        exact .counted ‹_› ‹_›
      · obtain ⟨-, rfl⟩ := Prod.mk.inj (Outcome.ok.inj stepped)
        exact .warned ‹_› ‹_›
      · split_ifs at stepped with ended
        obtain ⟨-, rfl⟩ := Prod.mk.inj (Outcome.ok.inj stepped)
        exact .abandoned ‹_› ‹_› ended
      · cases stepped
  | join =>
      simp only [step] at stepped
      split at stepped
      · split_ifs at stepped with ended
        obtain ⟨-, rfl⟩ := Prod.mk.inj (Outcome.ok.inj stepped)
        exact .joined ‹_› ended
      · cases stepped

/-- The other threads are where they were. -/
theorem threads_of_worker {capture after : Capture devices} {input : CaptureInput devices}
    {called : List CaptureOutput} {other : Fin devices} (worker : input.worker = some source)
    (stepped : capture.step input = .ok (called, after)) (different : other ≠ source) :
    after.threads other = capture.threads other := by
  cases Capture.step_steps stepped with
  | polled | fetched | advanced =>
      obtain rfl := Option.some.inj worker
      exact Capture.placing_threads_of_ne different
  | called _ callsBack =>
      obtain rfl := Option.some.inj worker
      rw [Capture.placing_threads_of_ne different]
      cases callsBack <;> rfl
  | left | received | receivedMotion | receivedNone | stopped => cases worker
  | failed reading => obtain rfl | rfl := reading <;> cases worker

/-- A thread that goes on has not ended, and leaves the receiver as it is. -/
theorem worker_alive {capture after : Capture devices} {input : CaptureInput devices}
    {called : List CaptureOutput} (worker : input.worker = some source)
    (stepped : capture.step input = .ok (called, after)) :
    capture.threads source ≠ .ended ∧ after.stopped = capture.stopped := by
  cases Capture.step_steps stepped with
  | polled at_ | fetched at_ | advanced at_ =>
      obtain rfl := Option.some.inj worker
      exact ⟨by simp [at_], rfl⟩
  | called calling callsBack =>
      obtain rfl := Option.some.inj worker
      exact ⟨by simp [calling], by cases callsBack <;> rfl⟩
  | left | received | receivedMotion | receivedNone | stopped => cases worker
  | failed reading => obtain rfl | rfl := reading <;> cases worker

/-! ## What the threads are at -/

/-- A device that is in another state than the one that has just changed is in it as before. -/
theorem opens_of_update {opens : Fin devices → DeviceOpen} {state changed : DeviceOpen}
    {other : Fin devices} (now : Function.update opens source changed other = state)
    (different : changed ≠ state) : other ≠ source ∧ opens other = state := by
  by_cases same : other = source
  · subst same
    rw [Function.update_self] at now
    exact absurd now different
  · rw [Function.update_of_ne same] at now
    exact ⟨same, now⟩

/-- The receiver of the input is there, a thread has a device before it begins, and none is left
once the caller has its error. -/
structure Orderly (startup : CaptureStartup devices) : Prop where
  going : startup.capture.stopped = false
  opening : ∀ source, startup.opens source = .opening →
    startup.capture.threads source = .polling
  refused : ∀ source, startup.opens source = .refused → startup.capture.threads source = .ended
  returned : ∀ error, startup.phase = .failed error → startup.capture.AllEnded

theorem orderly_start : (start devices).Orderly := by
  refine ⟨rfl, fun _ _ => rfl, by simp [start], fun error failed => ?_⟩
  by_cases none : devices = 0 <;> simp [start, none] at failed

/-- The thread of an opened device goes on, or ends. -/
theorem Orderly.moved {capture : Capture devices} {messages : List ReadyMessage}
    (orderly : startup.Orderly) (opened : startup.opens source = .opened)
    (alive : startup.capture.threads source ≠ .ended) (going : capture.stopped = false)
    (others : ∀ other, other ≠ source → capture.threads other = startup.capture.threads other) :
    Orderly { startup with capture, messages } := by
  have apart {state : DeviceOpen} {other : Fin devices} (different : state ≠ .opened)
      (is : startup.opens other = state) : other ≠ source := by
    rintro rfl
    exact different (is.symm.trans opened)
  refine ⟨going, fun other opening => ?_, fun other refuses => ?_, fun error failed => ?_⟩
  · exact (others other (apart (by simp) opening)).trans (orderly.opening other opening)
  · exact (others other (apart (by simp) refuses)).trans (orderly.refused other refuses)
  · exact absurd (orderly.returned error failed source) alive

theorem Orderly.kept (orderly : startup.Orderly) (steps : startup.Steps input next) :
    next.Orderly := by
  -- A device that is still to be opened keeps the caller from returning.
  have unreturned {source : Fin devices} (opening : startup.opens source = .opening)
      (error : String) : startup.phase ≠ .failed error := by
    intro failed
    cases (orderly.returned error failed source).symm.trans (orderly.opening source opening)
  cases steps with
  | @opened source opening =>
      refine ⟨orderly.going, fun other others => ?_, fun other refuses => ?_,
        fun error failed => absurd failed (unreturned opening error)⟩
      · exact orderly.opening other (opens_of_update others (by simp)).2
      · exact orderly.refused other (opens_of_update refuses (by simp)).2
  | @refused source error opening =>
      refine ⟨orderly.going, fun other others => ?_, fun other refuses => ?_,
        fun error failed => absurd failed (unreturned opening error)⟩
      · obtain ⟨different, others⟩ := opens_of_update others (by simp)
        exact (Capture.placing_threads_of_ne different).trans (orderly.opening other others)
      · by_cases same : other = source
        · subst same
          exact Capture.placing_threads_self
        · rw [Capture.placing_threads_of_ne same]
          exact orderly.refused other ((Function.update_of_ne same _ _).symm.trans refuses)
  | worked worker opened stepped =>
      obtain ⟨alive, receiver⟩ := worker_alive worker stepped
      exact orderly.moved opened alive (receiver.trans orderly.going) fun _ =>
        threads_of_worker worker stepped
  | noticed opened _ polling =>
      exact orderly.moved opened (by simp [polling]) orderly.going fun _ =>
        Capture.placing_threads_of_ne
  | broke opened fetching =>
      exact orderly.moved opened (by simp [fetching]) orderly.going fun _ =>
        Capture.placing_threads_of_ne
  | @counted ready _ _ _ =>
      refine ⟨orderly.going, orderly.opening, orderly.refused, fun error failed => ?_⟩
      dsimp only at failed
      by_cases all : ready + 1 = devices <;> simp [all] at failed
  | warned | abandoned =>
      exact ⟨orderly.going, orderly.opening, orderly.refused, fun _ failed => by cases failed⟩
  | joined _ ended => exact ⟨orderly.going, orderly.opening, orderly.refused, fun _ _ => ended⟩

theorem orderly_of_run {inputs : List (StartupInput devices)} {final : CaptureStartup devices}
    (ran : Machine.run step (start devices) inputs = .ok (outputs, final)) : final.Orderly :=
  Machine.run_preserves (fun orderly stepped => orderly.kept (step_steps stepped)) orderly_start ran

/-! ## What the caller learns -/

/-- The devices that have been opened. -/
def openedDevices (opens : Fin devices → DeviceOpen) : Finset (Fin devices) :=
  Finset.univ.filter fun source => opens source = .opened

/-- The devices that are still to be opened. -/
def openingDevices (opens : Fin devices → DeviceOpen) : Finset (Fin devices) :=
  Finset.univ.filter fun source => opens source = .opening

/-- What a caller that waits knows: as many devices have been opened as it has counted and has
still to count, and those that could not be opened are still to be reported. -/
structure Counts (opens : Fin devices → DeviceOpen) (messages : List ReadyMessage) (ready : Nat) :
    Prop where
  below : ready < devices
  counted : ready + messages.count .ready = (openedDevices opens).card
  refused : ∀ source, opens source = .refused → ∃ error, .failed error ∈ messages

/-- What the caller knows of the threads. -/
structure Told (past : List (StartupInput devices)) (startup : CaptureStartup devices) : Prop where
  reported : ∀ error, .failed error ∈ startup.messages →
    error ∈ past.filterMap StartupInput.reported
  waiting : ∀ ready, startup.phase = .waiting ready →
    Counts startup.opens startup.messages ready
  started : startup.phase = .started → ∀ source, startup.opens source = .opened
  blamed : ∀ error, startup.phase = .joining error ∨ startup.phase = .failed error →
    ∃ reason ∈ past.filterMap StartupInput.reported,
      error = "input capture failed before startup: " ++ reason

theorem told_start : Told [] (start devices) := by
  by_cases none : devices = 0
  · have phase : (start devices).phase = .started := if_pos none
    exact ⟨by simp [start], by simp [phase], fun _ source => absurd source.isLt (by omega),
      by simp [phase]⟩
  · have phase : (start devices).phase = .waiting 0 := if_neg none
    refine ⟨by simp [start], ?_, by simp [phase], by simp [phase]⟩
    intro ready waiting
    obtain rfl : 0 = ready := StartupPhase.waiting.inj (phase.symm.trans waiting)
    exact ⟨by omega, by simp [start, openedDevices], by simp [start]⟩

section Counts

variable {opens : Fin devices → DeviceOpen} {messages : List ReadyMessage} {ready : Nat}
  {error : String}

theorem Counts.opened (counts : Counts opens messages ready) (opening : opens source = .opening) :
    Counts (Function.update opens source .opened) (messages ++ [.ready]) ready := by
  have unopened : source ∉ openedDevices opens := by simp [openedDevices, opening]
  have more : openedDevices (Function.update opens source .opened) =
      insert source (openedDevices opens) := by
    ext other
    by_cases same : other = source <;> simp [openedDevices, same]
  refine ⟨counts.below, ?_, fun other refuses => ?_⟩
  · rw [more, Finset.card_insert_of_notMem unopened, ← counts.counted, List.count_append]
    rfl
  · obtain ⟨error, member⟩ := counts.refused other (opens_of_update refuses (by simp)).2
    exact ⟨error, List.mem_append_left _ member⟩

/-- A failure is reported, of a device that could not be opened or of another one. -/
theorem Counts.failed {changed : Fin devices → DeviceOpen} (counts : Counts opens messages ready)
    (same : ∀ other, changed other = .opened ↔ opens other = .opened) :
    Counts changed (messages ++ [.failed error]) ready := by
  refine ⟨counts.below, ?_, fun _ _ => ⟨error, by simp⟩⟩
  rw [openedDevices, Finset.filter_congr fun other _ => same other, ← openedDevices,
    ← counts.counted, List.count_append]
  rfl

/-- The caller has counted one more device, and goes on or has counted them all. -/
theorem Counts.received (counts : Counts opens (.ready :: messages) ready) :
    if ready + 1 = devices then ∀ source, opens source = .opened
    else Counts opens messages (ready + 1) := by
  obtain ⟨below, counted, refused⟩ := counts
  rw [List.count_cons_self] at counted
  split_ifs with all
  · have every : openedDevices opens = Finset.univ := by
      refine Finset.eq_univ_of_card _ (le_antisymm (Finset.card_le_univ _) ?_)
      rw [Fintype.card_fin]
      omega
    intro source
    have member : source ∈ openedDevices opens := every ▸ Finset.mem_univ source
    exact (Finset.mem_filter.mp member).2
  · refine ⟨by omega, by omega, fun source refuses => ?_⟩
    obtain ⟨error, member⟩ := refused source refuses
    exact ⟨error, by simpa using member⟩

/-- There is something to receive, or some device is still being opened. -/
theorem Counts.exists_opening (counts : Counts opens [] ready) :
    ∃ source, opens source = .opening := by
  by_contra none
  push Not at none
  have every : openedDevices opens = Finset.univ := by
    refine Finset.filter_true_of_mem fun source _ => ?_
    cases state : opens source with
    | opening => exact absurd state (none source)
    | opened => rfl
    | refused =>
        obtain ⟨error, member⟩ := counts.refused source state
        cases member
  have counted := counts.counted
  rw [every, Finset.card_univ, Fintype.card_fin] at counted
  simp only [List.count_nil, Nat.add_zero] at counted
  exact absurd counts.below counted.not_lt

end Counts

theorem Told.kept {past : List (StartupInput devices)} (told : Told past startup)
    (orderly : startup.Orderly) (steps : startup.Steps input next) :
    Told (past ++ [input]) next := by
  have still {reason : String} (member : reason ∈ past.filterMap StartupInput.reported) :
      reason ∈ (past ++ [input]).filterMap StartupInput.reported := by
    rw [List.filterMap_append]
    exact List.mem_append_left _ member
  have blamed (error : String)
      (blames : startup.phase = .joining error ∨ startup.phase = .failed error) :
      ∃ reason ∈ (past ++ [input]).filterMap StartupInput.reported,
        error = "input capture failed before startup: " ++ reason := by
    obtain ⟨reason, member, same⟩ := told.blamed error blames
    exact ⟨reason, still member, same⟩
  have reports {error : String} (reports : input.reported = some error) (reason : String)
      (member : .failed reason ∈ startup.messages ++ [.failed error]) :
      reason ∈ (past ++ [input]).filterMap StartupInput.reported := by
    obtain member | same := List.mem_append.mp member
    · exact still (told.reported reason member)
    · obtain rfl : reason = error := by simpa using same
      simp [reports]
  cases steps with
  | @opened source opening =>
      refine ⟨fun error member => ?_, fun ready waiting => ?_, fun started => ?_, blamed⟩
      · exact still (told.reported error (by simpa using member))
      · exact (told.waiting ready waiting).opened opening
      · exact absurd (told.started started source) (by simp [opening])
  | @refused source error opening =>
      refine ⟨reports rfl, fun ready waiting => ?_, fun started => ?_, blamed⟩
      · refine (told.waiting ready waiting).failed fun other => ?_
        by_cases same : other = source <;> simp [same, opening]
      · exact absurd (told.started started source) (by simp [opening])
  | worked | noticed =>
      exact ⟨fun error member => still (told.reported error member), told.waiting, told.started,
        blamed⟩
  | broke =>
      exact ⟨reports rfl, fun ready waiting => (told.waiting ready waiting).failed fun _ => Iff.rfl,
        told.started, blamed⟩
  | @counted ready messages waiting first =>
      have received := (first ▸ told.waiting ready waiting).received
      refine ⟨fun error member => ?_, fun later phase => ?_, fun started => ?_,
        fun error blames => ?_⟩
      · exact still (told.reported error (first ▸ List.mem_cons_of_mem _ member))
      · dsimp only at phase
        by_cases all : ready + 1 = devices
        · rw [if_pos all] at phase
          cases phase
        · rw [if_neg all] at phase received
          obtain rfl := StartupPhase.waiting.inj phase
          exact received
      · dsimp only at started
        by_cases all : ready + 1 = devices
        · rw [if_pos all] at received
          exact received
        · rw [if_neg all] at started
          cases started
      · dsimp only at blames
        by_cases all : ready + 1 = devices <;> simp [all] at blames
  | @warned ready error messages waiting first =>
      refine ⟨fun reason member => ?_, by simp, by simp, fun reason blames => ?_⟩
      · exact still (told.reported reason (first ▸ List.mem_cons_of_mem _ member))
      · obtain rfl := StartupPhase.joining.inj (blames.resolve_right (by simp))
        exact ⟨error, still (told.reported error (by simp [first])), rfl⟩
  | @abandoned ready waiting none ended =>
      obtain ⟨source, opening⟩ := (none ▸ told.waiting ready waiting).exists_opening
      cases (ended source).symm.trans (orderly.opening source opening)
  | @joined error joining ended =>
      refine ⟨fun reason member => still (told.reported reason member), by simp, by simp,
        fun other blames => ?_⟩
      obtain rfl := StartupPhase.failed.inj (blames.resolve_left (by simp))
      exact blamed error (.inl joining)

/-- The caller gets threads only if all devices have been opened, and its error is one that a thread
has reported: it never finds that the threads have ended without a report. -/
theorem capture_started_opened {inputs : List (StartupInput devices)}
    {final : CaptureStartup devices}
    (ran : Machine.run step (start devices) inputs = .ok (outputs, final)) :
    (final.phase = .started → ∀ source, final.opens source = .opened) ∧
      ∀ error, final.phase = .joining error ∨ final.phase = .failed error →
        ∃ reason ∈ inputs.filterMap StartupInput.reported,
          error = "input capture failed before startup: " ++ reason := by
  have told : Told inputs final :=
    Machine.run_history
      (fun ran told _ stepped => told.kept (orderly_of_run ran) (step_steps stepped)) told_start
      (fun _ _ => trivial) ran
  exact ⟨told.started, told.blamed⟩

/-- One device is opened, and the other one cannot be. -/
theorem capture_started_opened_refused :
    ∃ outputs final,
      Machine.run step (start 2)
          [.openDevice 1 none, .openDevice 0 (some "busy"), .receive, .receive, .notice 1, .join] =
        .ok (outputs, final) ∧
      final.phase = .failed "input capture failed before startup: busy" ∧
      ∃ reason, final.phase = .failed ("input capture failed before startup: " ++ reason) := by
  obtain ⟨outputs, final, ran, failed⟩ : ∃ outputs final,
      Machine.run step (start 2)
          [.openDevice 1 none, .openDevice 0 (some "busy"), .receive, .receive, .notice 1, .join] =
        .ok (outputs, final) ∧
      final.phase = .failed "input capture failed before startup: busy" := ⟨_, _, rfl, rfl⟩
  obtain ⟨reason, -, same⟩ := (capture_started_opened ran).2 _ (.inr failed)
  exact ⟨outputs, final, ran, failed, reason, same ▸ failed⟩

/-! ## What becomes of the captured input -/

/-- When one thread changes, what all threads weigh changes by what this one weighs. -/
theorem sum_placing (capture : Capture devices) (source : Fin devices)
    (weigh : CaptureThread → Nat) (thread : CaptureThread) :
    ∑ other, weigh ((capture.placing source thread).threads other) +
        weigh (capture.threads source) =
      ∑ other, weigh (capture.threads other) + weigh thread := by
  have changed (other : Fin devices) : weigh ((capture.placing source thread).threads other) =
      Function.update (fun other => weigh (capture.threads other)) source (weigh thread) other :=
    Function.apply_update (fun _ => weigh) ..
  simp only [changed, Finset.sum_update_of_mem (Finset.mem_univ source)]
  rw [Finset.sum_eq_add_sum_sdiff_singleton_of_mem (Finset.mem_univ source)
    fun other => weigh (capture.threads other)]
  omega

theorem load_placing (capture : Capture devices) (source : Fin devices) (thread : CaptureThread) :
    (capture.placing source thread).load + (capture.threads source).inputs.length =
      capture.load + thread.inputs.length := by
  have placed := sum_placing capture source (·.inputs.length) thread
  have same : (capture.placing source thread).reliable = capture.reliable := rfl
  rw [Capture.load, Capture.load, same]
  omega

theorem load_of_placing {capture : Capture devices} {thread : CaptureThread} {more : Nat}
    (same : thread.inputs.length = (capture.threads source).inputs.length + more) :
    (capture.placing source thread).load = capture.load + more := by
  have placed := load_placing capture source thread
  omega

/-- A thread that goes on passes on what it holds, and holds more only if it reads its device. -/
theorem load_of_worker {capture after : Capture devices} {input : CaptureInput devices}
    {called : List CaptureOutput} (worker : input.worker = some source)
    (going : capture.stopped = false) (stepped : capture.step input = .ok (called, after)) :
    after.load = capture.load + input.read := by
  cases Capture.step_steps stepped with
  | polled polling => exact load_of_placing (by rw [polling]; rfl)
  | fetched fetching => exact load_of_placing (by rw [fetching]; exact (Nat.zero_add _).symm)
  | @advanced source _ sequence batch thread running looked =>
      have same : thread.inputs = batch.inputs := (Capture.look_looks looked).inputs
      have placed : ({ capture with sequence }.placing source thread).load =
          Capture.load { capture with sequence } + 0 := load_of_placing (by rw [running, same]; rfl)
      exact placed
  | @called source event batch sent calling callsBack =>
      cases callsBack with
      | ignored _ none =>
          exact load_of_placing (by simp [calling, CaptureThread.inputs, none, CaptureInput.read])
      | dropped _ stopped => cases going.symm.trans stopped
      | @sent _ captured reliable some _ took =>
          have placed : ({ capture with reliable }.placing source (.running batch)).load +
              (capture.threads source).inputs.length =
                Capture.load { capture with reliable } + batch.inputs.length := load_placing ..
          have longer : reliable.messages.length = capture.reliable.messages.length + 1 := by
            rw [Channel.messages_of_send took, List.length_append, List.length_singleton]
          have passed : (capture.threads source).inputs.length = 1 + batch.inputs.length := by
            rw [calling, CaptureThread.inputs, some, List.length_append]
            rfl
          have more : Capture.load { capture with reliable } = capture.load + 1 := by
            rw [Capture.load, Capture.load, longer]
            exact Nat.add_right_comm ..
          show _ = capture.load
          omega
      | moved => exact load_of_placing (by rw [calling]; rfl)
  | left | received | receivedMotion | receivedNone | stopped => cases worker
  | failed reading => obtain rfl | rfl := reading <;> cases worker

theorem Orderly.load (orderly : startup.Orderly) (steps : startup.Steps input next) :
    next.capture.load = startup.capture.load + input.read := by
  cases steps with
  | refused opening => exact load_of_placing (by rw [orderly.opening _ opening]; rfl)
  | worked worker _ stepped => exact load_of_worker worker orderly.going stepped
  | noticed _ _ polling => exact load_of_placing (by rw [polling]; rfl)
  | broke _ fetching => exact load_of_placing (by rw [fetching]; rfl)
  | opened | counted | warned | abandoned | joined => rfl

/-! ## Joining the threads -/

/-- The caller gets its error in the end. -/
def Returns (startup : CaptureStartup devices) : Prop :=
  ∃ inputs outputs final error,
    Machine.run step startup inputs = .ok (outputs, final) ∧ final.phase = .failed error

/-- A step while the threads are joined, by which none of them reads its device. -/
structure Winds (startup : CaptureStartup devices) (input : StartupInput devices) : Prop where
  joining : ∃ error, startup.phase = .joining error
  polls : ∀ source, input ≠ .work (.poll source)
  fetches : ∀ source events, input ≠ .work (.fetch source events)

/-- No fewer than the steps that a thread takes from within a batch to its end. -/
def batchAhead (batch : Batch) : Nat :=
  2 * batch.events.length + if batch.events = [] ∧ batch.dx = 0 ∧ batch.dy = 0 then 2 else 4

/-- No fewer than the steps that a thread has ahead if it does not read its device. -/
def ahead : CaptureThread → Nat
  | .ended => 0
  | .polling | .fetching => 1
  | .running batch => batchAhead batch
  | .calling _ batch => batchAhead batch + 1

/-- No fewer than the steps ahead of the caller and its threads. -/
def work (startup : CaptureStartup devices) : Nat :=
  (match startup.phase with | .joining _ => 1 | _ => 0) + (openingDevices startup.opens).card +
    ∑ source, ahead (startup.capture.threads source)

theorem ahead_of_looks {number sequence timestampMicros newSequence : Nat} {batch : Batch}
    {thread : CaptureThread}
    (looks : Capture.Looks number sequence timestampMicros batch thread newSequence) :
    ahead thread < ahead (.running batch) := by
  cases looks with
  | @added event events =>
      simp only [ahead, batchAhead, List.length_cons, reduceCtorEq, false_and, if_false]
      split_ifs <;> omega
  | @handed event events =>
      simp only [ahead, batchAhead, List.length_cons, reduceCtorEq, false_and, if_false]
      split_ifs <;> omega
  | @skipped event events =>
      simp only [ahead, batchAhead, List.length_cons, reduceCtorEq, false_and, if_false]
      split_ifs <;> omega
  | @published dx dy moved =>
      have moves : ¬ (dx = 0 ∧ dy = 0) := by simpa using moved
      simp [ahead, batchAhead, moves]
  | finished => simp [ahead, batchAhead]

theorem ahead_of_worker {capture after : Capture devices} {input : CaptureInput devices}
    {called : List CaptureOutput} (worker : input.worker = some source)
    (polls : ∀ source, input ≠ .poll source)
    (fetches : ∀ source events, input ≠ .fetch source events)
    (stepped : capture.step input = .ok (called, after)) :
    ∑ other, ahead (after.threads other) < ∑ other, ahead (capture.threads other) := by
  cases Capture.step_steps stepped with
  | polled => exact absurd rfl (polls _)
  | fetched => exact absurd rfl (fetches _ _)
  | @advanced source _ sequence batch thread running looked =>
      have placed := sum_placing { capture with sequence } source ahead thread
      have lower : ahead thread < ahead (capture.threads source) := by
        rw [running]
        exact ahead_of_looks (Capture.look_looks looked)
      dsimp only at placed
      omega
  | @called source event batch sent calling callsBack =>
      have same : sent.threads = capture.threads := by cases callsBack <;> rfl
      have placed := sum_placing sent source ahead (.running batch)
      have lower : ahead (.running batch) < ahead (capture.threads source) := by
        rw [calling]
        exact Nat.lt_succ_self _
      rw [same] at placed
      omega
  | left | received | receivedMotion | receivedNone | stopped => cases worker
  | failed reading => obtain rfl | rfl := reading <;> cases worker

/-- A thread that ends has nothing ahead any more. -/
theorem ahead_of_ended (capture : Capture devices) (source : Fin devices) :
    ∑ other, ahead ((capture.placing source .ended).threads other) +
        ahead (capture.threads source) =
      ∑ other, ahead (capture.threads other) :=
  sum_placing capture source ahead .ended

theorem card_openingDevices {opens : Fin devices → DeviceOpen} (changed : DeviceOpen)
    (opening : opens source = .opening) (different : changed ≠ .opening) :
    (openingDevices (Function.update opens source changed)).card < (openingDevices opens).card := by
  have fewer : openingDevices (Function.update opens source changed) ⊆ openingDevices opens := by
    intro other member
    simpa [openingDevices] using (opens_of_update (Finset.mem_filter.mp member).2 different).2
  refine Finset.card_lt_card ((Finset.ssubset_iff_of_subset fewer).mpr ⟨source, ?_, ?_⟩)
  · simp [openingDevices, opening]
  · simp [openingDevices, different]

/-- Each step while the threads are joined brings the end nearer, if no thread reads its device. -/
theorem work_lt (winds : startup.Winds input) (stepped : step startup input = .ok (outputs, next)) :
    next.work < startup.work := by
  obtain ⟨error, joining⟩ := winds.joining
  cases step_steps stepped with
  | opened opening =>
      have fewer := card_openingDevices .opened opening (by simp)
      simp only [work]
      omega
  | @refused source _ opening =>
      have fewer := card_openingDevices .refused opening (by simp)
      have ends := ahead_of_ended startup.capture source
      simp only [work]
      omega
  | worked worker _ advanced =>
      have lower := ahead_of_worker worker (fun source same => winds.polls source (by rw [same]))
        (fun source events same => winds.fetches source events (by rw [same])) advanced
      simp only [work]
      omega
  | @noticed source _ _ polling =>
      have ends := ahead_of_ended startup.capture source
      have one : ahead (startup.capture.threads source) = 1 := by rw [polling]; rfl
      simp only [work]
      omega
  | @broke source _ _ fetching =>
      have ends := ahead_of_ended startup.capture source
      have one : ahead (startup.capture.threads source) = 1 := by rw [fetching]; rfl
      simp only [work]
      omega
  | counted waiting | warned waiting | abandoned waiting => cases joining.symm.trans waiting
  | joined =>
      simp only [work, joining]
      omega

/-- Once the threads are joined, the caller gets nothing but its error. -/
theorem Steps.concludes (steps : startup.Steps input next)
    (concludes : ∃ error, startup.phase = .joining error ∨ startup.phase = .failed error) :
    ∃ error, next.phase = .joining error ∨ next.phase = .failed error := by
  obtain ⟨reason, concludes⟩ := concludes
  cases steps with
  | opened | refused | worked | noticed | broke => exact ⟨reason, concludes⟩
  | counted waiting => obtain joining | failed := concludes <;> simp_all
  | warned | abandoned => exact ⟨_, .inl rfl⟩
  | joined => exact ⟨_, .inr rfl⟩

theorem step_work {capture : Capture devices} {called : List CaptureOutput}
    {input : CaptureInput devices} (worker : input.worker = some source)
    (opened : startup.opens source = .opened) (polls : ∀ source, input ≠ .poll source)
    (stepped : startup.capture.step input = .ok (called, capture)) :
    step startup (.work input) = .ok ([], { startup with capture }) := by
  simp only [step, worker]
  rw [if_pos ⟨opened, fun polled => polls source polled.2⟩, stepped]

/-- The callback of a thread returns if the channel has room for what the threads hold. -/
theorem callback_of_load {capture : Capture devices} {event : NativeCapturedEvent} {batch : Batch}
    (small : capture.load ≤ 256) (calling : capture.threads source = .calling event batch) :
    ∃ after, capture.callback event = some after := by
  cases event with
  | motion => exact ⟨_, rfl⟩
  | input number sequence eventType code value =>
      simp only [Capture.callback]
      split
      · rename_i captured reliable
        split_ifs
        · exact ⟨_, rfl⟩
        · cases sent : capture.reliable.send captured with
          | some reliable => exact ⟨_, rfl⟩
          | none =>
              have full : capture.reliable.messages.length = 256 := Channel.send_eq_none.mp sent
              have holds : 0 < (capture.threads source).inputs.length := by
                rw [calling, CaptureThread.inputs, reliable, List.length_append]
                exact Nat.lt_of_lt_of_le Nat.one_pos (Nat.le_add_right 1 _)
              have part : (capture.threads source).inputs.length ≤
                  ∑ other, (capture.threads other).inputs.length :=
                Finset.single_le_sum (f := fun other => (capture.threads other).inputs.length)
                  (fun _ _ => Nat.zero_le _) (Finset.mem_univ source)
              rw [Capture.load] at small
              omega
      · exact ⟨_, rfl⟩

/-- A thread that has nothing to do while there is room in the channel has ended. -/
theorem ended_of_rests (orderly : startup.Orderly)
    (joining : ∃ error, startup.phase = .joining error) (small : startup.capture.load ≤ 256)
    (rests : Machine.Rests step Winds startup) : startup.capture.AllEnded := by
  intro source
  have raised : startup.Raised := by
    obtain ⟨error, joining⟩ := joining
    simp [Raised, joining]
  cases opens : startup.opens source with
  | refused => exact orderly.refused source opens
  | opening =>
      exact (rests (.openDevice source none) ⟨joining, by simp, by simp⟩ _ _ (if_pos opens)).elim
  | opened =>
      cases thread : startup.capture.threads source with
      | ended => rfl
      | polling =>
          exact (rests (.notice source) ⟨joining, by simp, by simp⟩ _ _
            (if_pos ⟨opens, raised, thread⟩)).elim
      | fetching =>
          exact (rests (.fail source "") ⟨joining, by simp, by simp⟩ _ _
            (if_pos ⟨opens, thread⟩)).elim
      | running batch =>
          have stepped : ∃ called capture,
              startup.capture.step (.advance source 0) = .ok (called, capture) := by
            simp [Capture.step, thread]
          obtain ⟨called, capture, stepped⟩ := stepped
          exact (rests (.work (.advance source 0)) ⟨joining, by simp, by simp⟩ _ _
            (step_work rfl opens (by simp) stepped)).elim
      | calling event batch =>
          obtain ⟨after, called⟩ := callback_of_load small thread
          have stepped : startup.capture.step (.call source) =
              .ok ([.called event], after.placing source (.running batch)) := by
            simp only [Capture.step, thread, called]
          exact (rests (.work (.call source)) ⟨joining, by simp, by simp⟩ _ _
            (step_work rfl opens (by simp) stepped)).elim

/-- Nothing that the threads hold is lost. -/
theorem Orderly.load_le {inputs : List (StartupInput devices)} {final : CaptureStartup devices}
    (orderly : startup.Orderly) (ran : Machine.run step startup inputs = .ok (outputs, final)) :
    startup.capture.load ≤ final.capture.load := by
  have kept {state next : CaptureStartup devices} {input : StartupInput devices}
      {outputs : List Empty} (kept : state.Orderly ∧ startup.capture.load ≤ state.capture.load)
      (stepped : step state input = .ok (outputs, next)) :
      next.Orderly ∧ startup.capture.load ≤ next.capture.load := by
    have more := kept.1.load (step_steps stepped)
    exact ⟨kept.1.kept (step_steps stepped), by omega⟩
  exact (Machine.run_preserves kept ⟨orderly, le_rfl⟩ ran).2

/-- What is the case while the threads are joined with room for all they hold. -/
structure Concluding (startup : CaptureStartup devices) : Prop where
  orderly : startup.Orderly
  room : startup.capture.load ≤ 256
  concludes : ∃ error, startup.phase = .joining error ∨ startup.phase = .failed error

theorem Concluding.kept (concluding : startup.Concluding) (winds : startup.Winds input)
    (stepped : step startup input = .ok (outputs, next)) : next.Concluding := by
  have unread : input.read = 0 := by
    cases input with
    | work input =>
        cases input with
        | fetch source events => exact absurd rfl (winds.fetches source events)
        | _ => rfl
    | _ => rfl
  have same := concluding.orderly.load (step_steps stepped)
  exact ⟨concluding.orderly.kept (step_steps stepped), by have room := concluding.room; omega,
    (step_steps stepped).concludes concluding.concludes⟩

/-- A caller that joins its threads after an error can still return exactly if the keys, buttons and
scrolls that the threads have read fit into the channel, which nobody reads yet.  Otherwise it waits
forever, whatever the threads do. -/
theorem startup_returns_iff {inputs : List (StartupInput devices)} {error : String}
    (ran : Machine.run step (start devices) inputs = .ok (outputs, startup))
    (joining : startup.phase = .joining error) :
    startup.Returns ↔ startup.capture.load ≤ 256 := by
  have orderly : startup.Orderly := orderly_of_run ran
  constructor
  · rintro ⟨more, later, final, reason, returned, failed⟩
    have kept : startup.capture.load ≤ final.capture.load := orderly.load_le returned
    have ended : final.capture.AllEnded :=
      (Machine.run_preserves (fun orderly stepped => orderly.kept (step_steps stepped)) orderly
        returned : final.Orderly).returned reason failed
    have none : ∑ source, (final.capture.threads source).inputs.length = 0 :=
      Finset.sum_eq_zero fun source _ => by rw [ended source]; rfl
    have total : final.capture.load = final.capture.reliable.messages.length := by
      rw [Capture.load, none, Nat.add_zero]
    have bounded := final.capture.reliable.bounded
    omega
  · intro small
    obtain ⟨more, later, final, winds, wound, rests⟩ :=
      Machine.exists_rest (fun winds stepped => work_lt winds stepped) startup
    have concluding : final.Concluding :=
      Machine.run_preserves_along (fun concluding winds stepped => concluding.kept winds stepped)
        ⟨orderly, small, error, .inl joining⟩ winds wound
    obtain ⟨reason, still | failed⟩ := concluding.concludes
    · have ended := ended_of_rests concluding.orderly ⟨reason, still⟩ concluding.room rests
      have joined : step final .join = .ok ([], { final with phase := .failed reason }) := by
        simp only [step, still, if_pos ended]
      exact (rests .join ⟨⟨reason, still⟩, by simp, by simp⟩ _ _ joined).elim
    · exact ⟨more, later, final, reason, wound, failed⟩

/-- A key is captured before the other device turns out to be in use. -/
theorem startup_returns_iff_busy :
    ∃ outputs startup,
      Machine.run step (start 2)
          [.openDevice 1 none, .work (.poll 1), .work (.fetch 1 [⟨1, 30, 1⟩]), .work (.advance 1 0),
            .openDevice 0 (some "busy"), .receive, .receive] = .ok (outputs, startup) ∧
        startup.capture.load = 1 ∧ startup.Returns := by
  obtain ⟨outputs, startup, ran, joining, load⟩ : ∃ outputs startup,
      Machine.run step (start 2)
          [.openDevice 1 none, .work (.poll 1), .work (.fetch 1 [⟨1, 30, 1⟩]), .work (.advance 1 0),
            .openDevice 0 (some "busy"), .receive, .receive] = .ok (outputs, startup) ∧
        startup.phase = .joining "input capture failed before startup: busy" ∧
        startup.capture.load = 1 := ⟨_, _, rfl, rfl, rfl⟩
  exact ⟨outputs, startup, ran, load, (startup_returns_iff ran joining).mpr (by omega)⟩

end CaptureStartup
end Rflow
