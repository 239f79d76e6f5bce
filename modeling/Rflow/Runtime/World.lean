import Rflow.Foundation.Machine
import Rflow.Runtime.Host

/-!
# The host among its neighbours

The loop of the host runs next to connections that close, the tasks that watch and read them, the
supervisor that edits the layout, and commands in other processes that forget trusted peers.  Every
step of any of them is one input, and the inputs come in any order.
-/

namespace Rflow

open Foundation

/-- What has become of the loop. -/
inductive HostPhase where
  | running (host : Host)
  | stopped
  /-- A branch that was entered in some state has propagated an error, or never returns. -/
  | ended (last : Host) (error : RuntimeError)
  | panicked (message : String)

namespace HostPhase

/-- The loop runs, in a state that passes the test. -/
def runs (test : Host → Bool) : HostPhase → Bool
  | running host => test host
  | _ => false

theorem runs_eq_true {test : Host → Bool} {phase : HostPhase} :
    phase.runs test = true ↔ ∃ host, phase = running host ∧ test host = true := by
  cases phase <;> simp [runs]

end HostPhase

/-- A task of a connection, with the device that it was spawned for. -/
abbrev PeerTask := TopologyDeviceId × Connection

/-- How far the supervisor is with the command that it handles. -/
inductive SupervisorStage where
  | idle
  /-- An edit has loaded the inventory. -/
  | loaded (expectedRevision : Nat) (command : LayoutCommand) (inventory : ScreenInventory)
  /-- The files are written, and the new topology is not published yet. -/
  | written (topology : ScreenTopology)
  deriving DecidableEq

/-- A command in another process that forgets one trusted device or all of them, with the database
that it has loaded. -/
structure ForgetCommand where
  target : Option DeviceId
  database : TrustDatabase
  deriving DecidableEq

structure World where
  host : HostPhase
  closed : Finset Nat
  /-- The tasks that wait for their connection to close. -/
  watchers : List PeerTask
  /-- The notices of closed connections that the host has not taken yet. -/
  notices : List PeerTask
  /-- The tasks that read the reports of a connection. -/
  readers : List PeerTask
  /-- The reports that the host has not taken yet. -/
  reports : List (PeerTask × ReportedScreens)
  files : TopologyFiles
  supervisor : SupervisorStage
  /-- The published topology, while the host has not taken it. -/
  published : Option ScreenTopology
  trustFile : TrustFile
  forgetCommands : List ForgetCommand
  /-- The devices that the host has been told to forget. -/
  forgetRequests : List DeviceId

/-- A turn of the loop of the host. -/
inductive LoopTurn where
  | accept (incoming : Incoming) (stored : StoredLayout)
  | capture (event : Outcome String CapturedEvent)
  | takeNotice (stored : StoredLayout)
  | takeReport (stored : StoredLayout)
  | takeForget (stored : StoredLayout)
  | heartbeat (refreshed : Option (List DetectedScreen)) (stored : StoredLayout)
  | takeTopology (stored : StoredLayout)
  | stop

/-- A step of a connection, of its tasks, of the supervisor or of another process. -/
inductive NeighbourStep where
  | close (connection : Nat)
  | watch (task : PeerTask)
  | read (task : PeerTask) (screens : ReportedScreens)
  | endRead (task : PeerTask)
  | replaceTopology (expectedRevision : Nat) (topology : ScreenTopology)
  | loadForEdit (expectedRevision : Nat) (command : LayoutCommand)
  | writeEdit
  | publish
  | startForget (target : Option DeviceId)
  | commitForget (command : ForgetCommand) (fault : Option CommitStep)

inductive WorldInput where
  | turn (turn : LoopTurn)
  | neighbour (step : NeighbourStep)

/-- The devices that a command forgets, as the database it has loaded lists them. -/
def ForgetCommand.devices (command : ForgetCommand) : List DeviceId :=
  match command.target with
  | some deviceId => [deviceId]
  | none => command.database.peers.map TrustedPeer.deviceId

/-- Commit the removal to the trust file. -/
def ForgetCommand.commit (command : ForgetCommand) (file : TrustFile) (fault : Option CommitStep) :
    Outcome String Unit × TrustStore :=
  let store : TrustStore := { database := command.database, file }
  match command.target with
  | some deviceId =>
      let (result, store) := store.forget deviceId fault
      (result >>= fun _ => .ok (), store)
  | none =>
      let (result, store) := store.forgetAll fault
      (result >>= fun _ => .ok (), store)

namespace World

/-- What an output of the host changes around it. -/
def absorb (world : World) : HostOutput → World
  | .closeConnection connection => { world with closed := insert connection world.closed }
  | .inventoryFile inventory =>
      { world with files := { world.files with inventory := .inventory inventory } }
  | .layoutFile layout => { world with files := { world.files with layout } }
  | .trustFile file => { world with trustFile := file }
  | .spawnTasks device connection =>
      { world with
        watchers := world.watchers ++ [(device, connection)]
        readers := world.readers ++ [(device, connection)] }
  | .emit .. | .emitMotion .. | .setCursorPosition .. | .write .. | .sendDatagram .. | .notify _
  | .writePairing .. => world

/-- The loop after a branch that was entered in some state. -/
def afterBranch (last : Host) (resume : Host → HostPhase) : Outcome RuntimeError Host → HostPhase
  | .ok next => resume next
  | .err error => .ended last error
  | .panic message => .panicked message

/-- Take what a branch did over into the world. -/
def settle (world : World) (last : Host) (resume : Host → HostPhase)
    (branch : Traced HostOutput RuntimeError Host) : List HostOutput × World :=
  (branch.outputs,
    { branch.outputs.foldl absorb world with host := afterBranch last resume branch.outcome })

/-- The world when the loop starts, with nothing else under way. -/
def start (host : Host) (files : TopologyFiles) (trustFile : TrustFile) : World where
  host := .running host
  closed := ∅
  watchers := []
  notices := []
  readers := []
  reports := []
  files
  supervisor := .idle
  published := none
  trustFile
  forgetCommands := []
  forgetRequests := []

section Steps

variable (primitives : Primitives) (config : HostConfig)

/-- One turn of the loop, entered in some state of the host. -/
def turn (world : World) (host : Host) : LoopTurn → Outcome Unit (List HostOutput × World)
  | .accept incoming stored =>
      .ok (world.settle host .running
        (host.accepted primitives config world.closed world.files world.trustFile stored incoming))
  | .capture event =>
      if host.capturing then
        .ok (world.settle host .running (host.captured world.closed event))
      else
        .err ()
  | .takeNotice stored =>
      match world.notices with
      | [] => .err ()
      | (device, connection) :: notices =>
          .ok ({ world with notices }.settle host .running
            (host.disconnected world.closed device connection.remoteAddress stored))
  | .takeReport stored =>
      match world.reports with
      | [] => .err ()
      | ((device, connection), screens) :: reports =>
          .ok ({ world with reports }.settle host .running
            (host.inventoryReported world.closed device connection.remoteAddress screens stored))
  | .takeForget stored =>
      match world.forgetRequests with
      | [] => .err ()
      | deviceId :: forgetRequests =>
          .ok ({ world with forgetRequests }.settle host .running
            (host.forgotten world.closed deviceId stored))
  | .heartbeat refreshed stored =>
      .ok (world.settle host .running
        (host.heartbeat primitives config world.closed refreshed stored))
  | .takeTopology stored =>
      match world.published with
      | none => .err ()
      | some topology =>
          .ok ({ world with published := none }.settle host .running
            (host.topologyUpdated world.closed topology stored))
  | .stop => .ok (world.settle host (fun _ => .stopped) (host.stop world.closed))

/-- A step next to the loop. -/
def neighbourStep (world : World) : NeighbourStep → Outcome Unit World
  | .close connection => .ok { world with closed := insert connection world.closed }
  | .watch task =>
      if task ∈ world.watchers ∧ task.2.id ∈ world.closed then
        .ok { world with
          watchers := world.watchers.erase task
          notices := world.notices ++ [task] }
      else
        .err ()
  | .read task screens =>
      if task ∈ world.readers then
        .ok { world with reports := world.reports ++ [(task, screens)] }
      else
        .err ()
  | .endRead task =>
      if task ∈ world.readers then
        .ok { world with readers := world.readers.erase task }
      else
        .err ()
  | .replaceTopology expectedRevision topology =>
      if world.supervisor = .idle then
        match world.files.replace expectedRevision topology with
        | .ok (topology, files) => .ok { world with files, supervisor := .written topology }
        | _ => .ok world
      else
        .err ()
  | .loadForEdit expectedRevision command =>
      if world.supervisor = .idle then
        match world.files.loadState with
        | .ok state =>
            .ok { world with supervisor := .loaded expectedRevision command state.inventory }
        | _ => .ok world
      else
        .err ()
  | .writeEdit =>
      match world.supervisor with
      | .loaded expectedRevision command inventory =>
          match world.files.apply expectedRevision inventory command with
          | .ok (topology, files) => .ok { world with files, supervisor := .written topology }
          | _ => .ok { world with supervisor := .idle }
      | _ => .err ()
  | .publish =>
      match world.supervisor with
      | .written topology => .ok { world with published := some topology, supervisor := .idle }
      | _ => .err ()
  | .startForget target =>
      match TrustStore.load primitives.sha256 world.trustFile with
      | .ok store =>
          if (target.all fun deviceId => store.database.lists deviceId) = true then
            .ok { world with
              forgetCommands := { target, database := store.database } :: world.forgetCommands }
          else
            .err ()
      | _ => .err ()
  | .commitForget command fault =>
      if command ∈ world.forgetCommands then
        let (committed, store) := command.commit world.trustFile fault
        let world := { world with
          trustFile := store.file
          forgetCommands := world.forgetCommands.erase command }
        match committed with
        | .ok () =>
            .ok { world with forgetRequests := world.forgetRequests ++ command.devices }
        | _ => .ok world
      else
        .err ()

/-- One step: a turn of the loop while it runs, or a step next to it. -/
def step : Machine.Step World WorldInput HostOutput Unit := fun world input =>
  match input with
  | .turn turn =>
      match world.host with
      | .running host => world.turn primitives config host turn
      | _ => .err ()
  | .neighbour step => do
      let next ← world.neighbourStep primitives step
      pure ([], next)

end Steps
end World

/-! ## A host with one trusted device -/

/-- A digest that goes by the first byte, and encodings of the messages of one device. -/
def samplePrimitives : Primitives where
  sha256 := fun bytes => sampleDeviceId (bytes.headD 0)
  pairing :=
    { encode := fun _ => []
      decode
        | [0] => some (.hello 1 .client "laptop" [] (sampleDeviceId 1))
        | [1] => some .acknowledged
        | _ => none }
  reliable :=
    { encode := fun _ => []
      decode
        | [2] => some (.clientHello 3 [⟨"a", "panel", 100, 100, true⟩])
        | _ => none }

def sampleConfig : HostConfig := { deviceName := "desk", certificate := [2] }

def sampleScreens : List DetectedScreen :=
  [{ stableId := "a", name := "panel", logicalSize := { width := 100, height := 100 }
     x := 0, y := 0, primary := true }]

/-- The screen of the sample device or of the host in the inventory. -/
def sampleScreen (device : UInt8) (deviceName : String) (online thisDevice : Bool) :
    ScreenDescriptor where
  screenId := .ofDevice (sampleDeviceId device).topologyId "a"
  deviceId := (sampleDeviceId device).topologyId
  deviceName := deviceName
  name := "panel"
  logicalSize := { width := 100, height := 100 }
  primary := true
  online := online
  thisDevice := thisDevice

/-- The screen of the sample device lies to the right of that of the host, or is not placed. -/
def sampleLayout (linked : Bool) : ScreenLayout where
  schemaVersion := layoutSchemaVersion
  revision := 0
  links :=
    if linked then
      [{ fromEdge := ⟨(sampleScreen 2 "desk" true true).screenId, .right⟩
         toEdge := ⟨(sampleScreen 1 "laptop" true false).screenId, .left⟩ }]
    else
      []
  sizeOverrides := []

/-- The files after an earlier run with the sample device. -/
def sampleState : TopologyState where
  layout := sampleLayout true
  inventory :=
    { screens := [sampleScreen 2 "desk" true true, sampleScreen 1 "laptop" false false] }

def sampleFiles : TopologyFiles where
  inventory := .inventory sampleState.inventory
  layout := .current sampleState.layout

/-- A database that lists the sample device. -/
def sampleTrust : TrustDatabase where
  version := 1
  peers :=
    [{ deviceId := sampleDeviceId 1
       displayName := "laptop"
       certificate := [1]
       firstSeenAt := 0
       lastSeenAt := none }]
  endpoints := []

/-- A connection of the given number from the given port. -/
def sampleConnection (id port : Nat) : Connection :=
  { id, remoteAddress := { ip := .v4 1, port } }

/-- A complete setup of the sample device. -/
def sampleAttempt (connection : Connection) (signals : List PairingSignal) : Attempt where
  connection := connection
  identity := .chain [[1]]
  pairingStream := .opened { bytes := [0, 0, 0, 1, 0, 0, 0, 0, 1, 1], ended := false }
  nonce := []
  helloWrite := .written
  now := 0
  unixTimestamp := 0
  signals := signals
  commitFault := none
  answerWrite := .written
  finished := true
  metadataStream := .opened { bytes := [0, 0, 0, 1, 2], ended := false }
  inputStreamOpened := true
  inputHelloWritten := true

/-- The turn that takes a complete setup of the sample device. -/
def sampleAccept (connection : Connection) : WorldInput :=
  .turn (.accept (.connected (sampleAttempt connection [])) (.ok (sampleLayout true)))

/-- The host with a trust database, at the start of its loop. -/
def sampleHost (trust : TrustDatabase) : Outcome String Host :=
  Host.start samplePrimitives sampleConfig none sampleState trust sampleScreens 50 50

end Rflow
