import Rflow.Runtime.HostSteps

/-!
# What one step of the world does

A step of a neighbour leaves the loop alone.  A turn that returns to the loop takes at most one
message from one queue, and what it puts out changes the world around it.
-/

namespace Rflow

open Foundation

namespace World

/-! ## Absorbed outputs -/

section Absorb

variable {α : Type*} (world : World) (outputs : List HostOutput)

/-- What no single output changes stays over all outputs. -/
theorem foldl_absorb_field (field : World → α)
    (kept : ∀ (world : World) (output : HostOutput), field (world.absorb output) = field world) :
    field (outputs.foldl absorb world) = field world := by
  induction outputs generalizing world with
  | nil => rfl
  | cons output outputs induction =>
      exact (induction (world.absorb output)).trans (kept world output)

@[simp]
theorem foldl_absorb_notices : (outputs.foldl absorb world).notices = world.notices :=
  foldl_absorb_field world outputs World.notices fun _ output => by cases output <;> rfl

@[simp]
theorem foldl_absorb_reports : (outputs.foldl absorb world).reports = world.reports :=
  foldl_absorb_field world outputs World.reports fun _ output => by cases output <;> rfl

@[simp]
theorem foldl_absorb_supervisor : (outputs.foldl absorb world).supervisor = world.supervisor :=
  foldl_absorb_field world outputs World.supervisor fun _ output => by cases output <;> rfl

@[simp]
theorem foldl_absorb_published : (outputs.foldl absorb world).published = world.published :=
  foldl_absorb_field world outputs World.published fun _ output => by cases output <;> rfl

@[simp]
theorem foldl_absorb_forgetRequests :
    (outputs.foldl absorb world).forgetRequests = world.forgetRequests :=
  foldl_absorb_field world outputs World.forgetRequests fun _ output => by cases output <;> rfl

variable {world outputs}

theorem mem_foldl_absorb_watchers {task : PeerTask} :
    task ∈ (outputs.foldl absorb world).watchers ↔
      task ∈ world.watchers ∨ .spawnTasks task.1 task.2 ∈ outputs := by
  induction outputs generalizing world with
  | nil => simp
  | cons output outputs induction =>
      rw [List.foldl_cons, induction]
      cases output <;> simp [absorb, or_assoc, Prod.ext_iff]

theorem mem_foldl_absorb_readers {task : PeerTask} :
    task ∈ (outputs.foldl absorb world).readers ↔
      task ∈ world.readers ∨ .spawnTasks task.1 task.2 ∈ outputs := by
  induction outputs generalizing world with
  | nil => simp
  | cons output outputs induction =>
      rw [List.foldl_cons, induction]
      cases output <;> simp [absorb, or_assoc, Prod.ext_iff]

/-- The inventory file holds what was written to it, when only one inventory was. -/
theorem foldl_absorb_inventory {inventory : ScreenInventory}
    (only : ∀ other, .inventoryFile other ∈ outputs → other = inventory) :
    (outputs.foldl absorb world).files.inventory =
      if .inventoryFile inventory ∈ outputs then .inventory inventory
      else world.files.inventory := by
  induction outputs generalizing world with
  | nil => rfl
  | cons output outputs induction =>
      rw [List.foldl_cons, induction fun other member => only other (List.mem_cons_of_mem _ member)]
      cases output with
      | inventoryFile written =>
          obtain rfl := only written List.mem_cons_self
          simp [absorb]
      | _ => simp [absorb]

end Absorb

/-! ## Steps -/

/-- At most one message of one queue has been taken. -/
structure Around (world queue : World) : Prop where
  closed : queue.closed = world.closed
  watchers : queue.watchers = world.watchers
  readers : queue.readers = world.readers
  files : queue.files = world.files
  supervisor : queue.supervisor = world.supervisor
  trustFile : queue.trustFile = world.trustFile
  notices : queue.notices <:+ world.notices
  reports : queue.reports <:+ world.reports
  forgetRequests : queue.forgetRequests <:+ world.forgetRequests

theorem Around.refl (world : World) : Around world world :=
  ⟨rfl, rfl, rfl, rfl, rfl, rfl, List.suffix_refl _, List.suffix_refl _, List.suffix_refl _⟩

variable {primitives : Primitives} {config : HostConfig} {world after : World} {host next : Host}
  {outputs : List HostOutput}

/-- What a turn but the last takes from its queue, and the branch that it runs. -/
inductive Turns (primitives : Primitives) (config : HostConfig) (world : World) (host : Host) :
    LoopTurn → World → Traced HostOutput RuntimeError Host → Prop
  | accept {incoming : Incoming} {stored : StoredLayout} :
      Turns primitives config world host (.accept incoming stored) world
        (host.accepted primitives config world.closed world.files world.trustFile stored incoming)
  | capture {event : Outcome String CapturedEvent} (capturing : host.capturing = true) :
      Turns primitives config world host (.capture event) world (host.captured world.closed event)
  | takeNotice {device : TopologyDeviceId} {connection : Connection} {notices : List PeerTask}
      {stored : StoredLayout} (queued : world.notices = (device, connection) :: notices) :
      Turns primitives config world host (.takeNotice stored) { world with notices }
        (host.disconnected world.closed device connection.remoteAddress stored)
  | takeReport {device : TopologyDeviceId} {connection : Connection} {screens : ReportedScreens}
      {reports : List (PeerTask × ReportedScreens)} {stored : StoredLayout}
      (queued : world.reports = ((device, connection), screens) :: reports) :
      Turns primitives config world host (.takeReport stored) { world with reports }
        (host.inventoryReported world.closed device connection.remoteAddress screens stored)
  | takeForget {deviceId : DeviceId} {forgetRequests : List DeviceId} {stored : StoredLayout}
      (queued : world.forgetRequests = deviceId :: forgetRequests) :
      Turns primitives config world host (.takeForget stored) { world with forgetRequests }
        (host.forgotten world.closed deviceId stored)
  | heartbeat {refreshed : Option (List DetectedScreen)} {stored : StoredLayout} :
      Turns primitives config world host (.heartbeat refreshed stored) world
        (host.heartbeat primitives config world.closed refreshed stored)
  | takeTopology {topology : ScreenTopology} {stored : StoredLayout}
      (queued : world.published = some topology) :
      Turns primitives config world host (.takeTopology stored) { world with published := none }
        (host.topologyUpdated world.closed topology stored)

/-- A turn stops the loop, or runs a branch that may go on. -/
theorem turn_cases {turn : LoopTurn}
    (turned : world.turn primitives config host turn = .ok (outputs, after)) :
    (turn = .stop ∧
        world.settle host (fun _ => .stopped) (host.stop world.closed) = (outputs, after)) ∨
      ∃ queue branch, Turns primitives config world host turn queue branch ∧
        queue.settle host .running branch = (outputs, after) := by
  cases turn with
  | accept incoming stored => exact Or.inr ⟨_, _, .accept, Outcome.ok.inj turned⟩
  | capture event =>
      simp only [World.turn] at turned
      split at turned
      · exact Or.inr ⟨_, _, .capture ‹_›, Outcome.ok.inj turned⟩
      · cases turned
  | takeNotice stored =>
      simp only [World.turn] at turned
      split at turned
      · cases turned
      · exact Or.inr ⟨_, _, .takeNotice ‹_›, Outcome.ok.inj turned⟩
  | takeReport stored =>
      simp only [World.turn] at turned
      split at turned
      · cases turned
      · exact Or.inr ⟨_, _, .takeReport ‹_›, Outcome.ok.inj turned⟩
  | takeForget stored =>
      simp only [World.turn] at turned
      split at turned
      · cases turned
      · exact Or.inr ⟨_, _, .takeForget ‹_›, Outcome.ok.inj turned⟩
  | heartbeat refreshed stored => exact Or.inr ⟨_, _, .heartbeat, Outcome.ok.inj turned⟩
  | takeTopology stored =>
      simp only [World.turn] at turned
      split at turned
      · cases turned
      · exact Or.inr ⟨_, _, .takeTopology ‹_›, Outcome.ok.inj turned⟩
  | stop => exact Or.inl ⟨rfl, Outcome.ok.inj turned⟩

/-- A settled turn that goes on has returned. -/
theorem settle_running {queue : World} {branch : Traced HostOutput RuntimeError Host}
    (settled : queue.settle host .running branch = (outputs, after))
    (resumed : after.host = .running next) :
    branch.Returns outputs next ∧
      after = { outputs.foldl absorb queue with host := .running next } := by
  obtain ⟨rfl, rfl⟩ := Prod.mk.inj settled
  cases ended : branch.outcome with
  | ok later =>
      simp only [ended, afterBranch, HostPhase.running.injEq] at resumed
      subst resumed
      exact ⟨⟨rfl, ended⟩, by simp [afterBranch]⟩
  | err error => simp [ended, afterBranch] at resumed
  | panic message => simp [ended, afterBranch] at resumed

theorem step_turn {turn : LoopTurn}
    (stepped : world.step primitives config (.turn turn) = .ok (outputs, after)) :
    ∃ host, world.host = .running host ∧
      world.turn primitives config host turn = .ok (outputs, after) := by
  cases phase : world.host with
  | running host => exact ⟨host, rfl, by simpa [step, phase] using stepped⟩
  | stopped => simp [step, phase] at stepped
  | ended last error => simp [step, phase] at stepped
  | panicked message => simp [step, phase] at stepped

theorem step_neighbour {neighbour : NeighbourStep}
    (stepped : world.step primitives config (.neighbour neighbour) = .ok (outputs, after)) :
    world.neighbourStep primitives neighbour = .ok after ∧ outputs = [] := by
  simp only [step, Outcome.bind_eq_ok, Outcome.pure_eq, Outcome.ok.injEq, Prod.mk.injEq] at stepped
  obtain ⟨_, stepped, rfl, rfl⟩ := stepped
  exact ⟨stepped, rfl⟩

/-- What a step next to the loop does. -/
inductive Neighbours (primitives : Primitives) (world : World) : NeighbourStep → World → Prop
  | close {connection : Nat} :
      Neighbours primitives world (.close connection)
        { world with closed := insert connection world.closed }
  | watch {task : PeerTask} (watching : task ∈ world.watchers) (closed : task.2.id ∈ world.closed) :
      Neighbours primitives world (.watch task) { world with
        watchers := world.watchers.erase task
        notices := world.notices ++ [task] }
  | read {task : PeerTask} {screens : ReportedScreens} (reading : task ∈ world.readers) :
      Neighbours primitives world (.read task screens)
        { world with reports := world.reports ++ [(task, screens)] }
  | endRead {task : PeerTask} (reading : task ∈ world.readers) :
      Neighbours primitives world (.endRead task)
        { world with readers := world.readers.erase task }
  | replaced {expectedRevision : Nat} {topology stored : ScreenTopology} {files : TopologyFiles}
      (idle : world.supervisor = .idle)
      (stores : world.files.replace expectedRevision topology = .ok (stored, files)) :
      Neighbours primitives world (.replaceTopology expectedRevision topology)
        { world with files, supervisor := .written stored }
  | replaceFailed {expectedRevision : Nat} {topology : ScreenTopology}
      (idle : world.supervisor = .idle) :
      Neighbours primitives world (.replaceTopology expectedRevision topology) world
  | loaded {expectedRevision : Nat} {command : LayoutCommand} {state : TopologyState}
      (idle : world.supervisor = .idle) (loads : world.files.loadState = .ok state) :
      Neighbours primitives world (.loadForEdit expectedRevision command)
        { world with supervisor := .loaded expectedRevision command state.inventory }
  | loadFailed {expectedRevision : Nat} {command : LayoutCommand}
      (idle : world.supervisor = .idle) :
      Neighbours primitives world (.loadForEdit expectedRevision command) world
  | edited {expectedRevision : Nat} {command : LayoutCommand} {inventory : ScreenInventory}
      {topology : ScreenTopology} {files : TopologyFiles}
      (stage : world.supervisor = .loaded expectedRevision command inventory)
      (applies : world.files.apply expectedRevision inventory command = .ok (topology, files)) :
      Neighbours primitives world .writeEdit { world with files, supervisor := .written topology }
  | editFailed {expectedRevision : Nat} {command : LayoutCommand} {inventory : ScreenInventory}
      (stage : world.supervisor = .loaded expectedRevision command inventory) :
      Neighbours primitives world .writeEdit { world with supervisor := .idle }
  | publish {topology : ScreenTopology} (stage : world.supervisor = .written topology) :
      Neighbours primitives world .publish
        { world with published := some topology, supervisor := .idle }
  | startForget {target : Option DeviceId} {store : TrustStore}
      (loads : TrustStore.load primitives.sha256 world.trustFile = .ok store)
      (listed : (target.all fun deviceId => store.database.lists deviceId) = true) :
      Neighbours primitives world (.startForget target) { world with
        forgetCommands := { target, database := store.database } :: world.forgetCommands }
  | forgot {command : ForgetCommand} {fault : Option CommitStep} {store : TrustStore}
      (started : command ∈ world.forgetCommands)
      (commits : command.commit world.trustFile fault = (.ok (), store)) :
      Neighbours primitives world (.commitForget command fault) { world with
        trustFile := store.file
        forgetCommands := world.forgetCommands.erase command
        forgetRequests := world.forgetRequests ++ command.devices }
  | forgetFailed {command : ForgetCommand} {fault : Option CommitStep} {store : TrustStore}
      {committed : Outcome String Unit} (started : command ∈ world.forgetCommands)
      (commits : command.commit world.trustFile fault = (committed, store)) :
      Neighbours primitives world (.commitForget command fault) { world with
        trustFile := store.file
        forgetCommands := world.forgetCommands.erase command }

theorem neighbourStep_neighbours {neighbour : NeighbourStep}
    (stepped : world.neighbourStep primitives neighbour = .ok after) :
    Neighbours primitives world neighbour after := by
  cases neighbour with
  | close connection =>
      obtain rfl := Outcome.ok.inj stepped
      exact .close
  | watch task =>
      simp only [neighbourStep] at stepped
      split_ifs at stepped with watching
      obtain rfl := Outcome.ok.inj stepped
      exact .watch watching.1 watching.2
  | read task screens =>
      simp only [neighbourStep] at stepped
      split_ifs at stepped with reading
      obtain rfl := Outcome.ok.inj stepped
      exact .read reading
  | endRead task =>
      simp only [neighbourStep] at stepped
      split_ifs at stepped with reading
      obtain rfl := Outcome.ok.inj stepped
      exact .endRead reading
  | replaceTopology expectedRevision topology =>
      simp only [neighbourStep] at stepped
      split_ifs at stepped with idle
      split at stepped
      · obtain rfl := Outcome.ok.inj stepped
        exact .replaced idle ‹_›
      · obtain rfl := Outcome.ok.inj stepped
        exact .replaceFailed idle
  | loadForEdit expectedRevision command =>
      simp only [neighbourStep] at stepped
      split_ifs at stepped with idle
      split at stepped
      · obtain rfl := Outcome.ok.inj stepped
        exact .loaded idle ‹_›
      · obtain rfl := Outcome.ok.inj stepped
        exact .loadFailed idle
  | writeEdit =>
      simp only [neighbourStep] at stepped
      split at stepped
      · split at stepped
        · obtain rfl := Outcome.ok.inj stepped
          exact .edited ‹_› ‹_›
        · obtain rfl := Outcome.ok.inj stepped
          exact .editFailed ‹_›
      · cases stepped
  | publish =>
      simp only [neighbourStep] at stepped
      split at stepped
      · obtain rfl := Outcome.ok.inj stepped
        exact .publish ‹_›
      · cases stepped
  | startForget target =>
      simp only [neighbourStep] at stepped
      split at stepped
      · split_ifs at stepped with listed
        obtain rfl := Outcome.ok.inj stepped
        exact .startForget ‹_› listed
      · cases stepped
  | commitForget command fault =>
      simp only [neighbourStep] at stepped
      split_ifs at stepped with started
      rcases commits : command.commit world.trustFile fault with ⟨committed, store⟩
      simp only [commits] at stepped
      split at stepped
      · obtain rfl := Outcome.ok.inj stepped
        exact .forgot started commits
      · obtain rfl := Outcome.ok.inj stepped
        exact .forgetFailed started commits

/-- A neighbour leaves the loop alone. -/
theorem neighbourStep_host {neighbour : NeighbourStep}
    (stepped : world.neighbourStep primitives neighbour = .ok after) : after.host = world.host := by
  cases neighbourStep_neighbours stepped <;> rfl

/-- A turn that goes on has returned from its branch. -/
theorem turn_running {turn : LoopTurn}
    (turned : world.turn primitives config host turn = .ok (outputs, after))
    (resumed : after.host = .running next) :
    ∃ queue branch, Turns primitives config world host turn queue branch ∧
      branch.Returns outputs next ∧
      after = { outputs.foldl absorb queue with host := .running next } := by
  rcases turn_cases turned with ⟨_, settled⟩ | ⟨queue, branch, turns, settled⟩
  · obtain ⟨_, rfl⟩ := Prod.mk.inj settled
    cases ended : (host.stop world.closed).outcome <;> simp [ended, afterBranch] at resumed
  · exact ⟨queue, branch, turns, settle_running settled resumed⟩

/-- A turn that takes an incoming connection and goes on. -/
theorem turn_accept {incoming : Incoming} {stored : StoredLayout}
    (turned : world.turn primitives config host (.accept incoming stored) = .ok (outputs, after))
    (resumed : after.host = .running next) :
    (host.accepted primitives config world.closed world.files world.trustFile stored
        incoming).Returns outputs next ∧
      after = { outputs.foldl absorb world with host := .running next } :=
  settle_running (Outcome.ok.inj turned) resumed

/-- Any other turn that goes on keeps peers, trust and tasks, and takes at most one message. -/
theorem turn_kept {turn : LoopTurn} (other : ∀ incoming stored, turn ≠ .accept incoming stored)
    (turned : world.turn primitives config host turn = .ok (outputs, after))
    (resumed : after.host = .running next) :
    ∃ queue, Around world queue ∧ host.Kept next outputs ∧
      after = { outputs.foldl absorb queue with host := .running next } := by
  obtain ⟨queue, branch, turns, returned, rfl⟩ := turn_running turned resumed
  cases turns with
  | accept => exact (other _ _ rfl).elim
  | capture => exact ⟨world, .refl world, Host.captured_kept returned, rfl⟩
  | @takeNotice _ _ notices _ queued =>
      refine ⟨{ world with notices }, { Around.refl world with notices := ?_ },
        Host.disconnected_kept returned, rfl⟩
      exact queued ▸ List.suffix_cons _ _
  | @takeReport _ _ _ reports _ queued =>
      refine ⟨{ world with reports }, { Around.refl world with reports := ?_ },
        Host.inventoryReported_kept returned, rfl⟩
      exact queued ▸ List.suffix_cons _ _
  | @takeForget _ forgetRequests _ queued =>
      refine ⟨{ world with forgetRequests }, { Around.refl world with forgetRequests := ?_ },
        Host.forgotten_kept returned, rfl⟩
      exact queued ▸ List.suffix_cons _ _
  | heartbeat => exact ⟨world, .refl world, Host.heartbeat_kept returned, rfl⟩
  | takeTopology =>
      exact ⟨{ world with published := none }, { Around.refl world with },
        Host.topologyUpdated_kept returned, rfl⟩

end World
end Rflow
