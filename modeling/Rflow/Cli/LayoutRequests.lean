import Rflow.Core.LayoutCommands
import Rflow.Runtime.PlacementPrompt

/-!
# Layout edits from the command line

An edit is looked up in a topology that was fetched before: from the host if one is running, else
from the store.  It is submitted with the revision of that topology, to the host or to the store.
-/

namespace Rflow

open Foundation

/-- An edge named by a device or a screen. -/
structure EdgeSpec where
  screen : String
  edge : Edge
  deriving DecidableEq

/-- The subcommands that edit the layout. -/
inductive LayoutSubcommand where
  | apply (layout : ScreenLayout) (expectedRevision : Nat)
  | place (screen anchor : String) (position : RelativePosition) (replace : Bool)
  | link (leaving entering : EdgeSpec) (replace : Bool)
  | unlink (edge : EdgeSpec)
  | unplace (screen : String)
  | setSize (screen : String) (size : ScreenSize)
  | clearSize (screen : String)
  deriving DecidableEq

inductive CliError where
  /-- No screen or device has this name. -/
  | notFound (query : String)
  /-- These screens have this name, or their devices. -/
  | ambiguous (query : String) (matching : List ScreenId)
  | message (text : String)
  deriving DecidableEq

/-- How a request to the management endpoint of the host goes. -/
inductive Endpoint where
  /-- There is no endpoint, or nobody listens. -/
  | unavailable
  | failing (error : String)
  | serving (snapshot : ScreenTopology)
  deriving DecidableEq

/-- The query names the screen or its device. -/
def ScreenNode.named (screen : ScreenNode) (query : String) : Bool :=
  screen.deviceId.value = query || screen.deviceName = query || screen.name = query

def resolveScreenId (topology : ScreenTopology) (query : String) : Outcome CliError ScreenId :=
  match topology.screens.find? fun screen => screen.screenId.value = query with
  | some screen => .ok screen.screenId
  | none =>
      match topology.screens.filter (·.named query) with
      | [screen] => .ok screen.screenId
      | [] => .err (.notFound query)
      | matching => .err (.ambiguous query (matching.map ScreenNode.screenId))

def resolveEdge (topology : ScreenTopology) (value : EdgeSpec) : Outcome CliError ScreenEdge := do
  let screenId ← resolveScreenId topology value.screen
  pure { screenId, edge := value.edge }

/-- The revision and the command that a subcommand submits. -/
def LayoutSubcommand.request (topology : ScreenTopology) :
    LayoutSubcommand → Outcome CliError (Nat × LayoutCommand)
  | apply layout expectedRevision => .ok (expectedRevision, .replace layout)
  | place screen anchor position replace => do
      let screenId ← resolveScreenId topology screen
      let anchorId ← resolveScreenId topology anchor
      pure (topology.revision, .place screenId anchorId position replace)
  | link leaving entering replace => do
      let leaving ← resolveEdge topology leaving
      let entering ← resolveEdge topology entering
      pure (topology.revision, .link leaving entering replace)
  | unlink edge => do
      let edge ← resolveEdge topology edge
      pure (topology.revision, .unlink edge)
  | unplace screen => do
      let screenId ← resolveScreenId topology screen
      pure (topology.revision, .unplace screenId)
  | setSize screen size => do
      let screenId ← resolveScreenId topology screen
      pure (topology.revision, .setSizeOverride screenId (some size))
  | clearSize screen => do
      let screenId ← resolveScreenId topology screen
      pure (topology.revision, .setSizeOverride screenId none)

namespace TopologyFiles

def load (files : TopologyFiles) : Outcome String (Option ScreenTopology) :=
  if files.layout = .absent ∧ files.inventory = .absent then
    .ok none
  else do
    let state ← files.loadState
    let topology ← (state.layout.resolve state.inventory).mapErr LayoutError.display
    pure (some topology)

end TopologyFiles

namespace Endpoint

def requestTopology (files : TopologyFiles) : Endpoint → Outcome CliError ScreenTopology
  | serving snapshot => .ok snapshot
  | failing error => .err (.message error)
  | unavailable => do
      let topology ← files.load.mapErr CliError.message
      pure (topology.getD default)

/-- Submit a command; the host commits it to the store that would be used without one. -/
def submitLayoutCommand (files : TopologyFiles) (expectedRevision : Nat) (command : LayoutCommand) :
    Endpoint → Outcome CliError (String × TopologyFiles)
  | failing error => .err (.message error)
  | endpoint => do
      let (topology, written) ←
        (files.applyLayoutCommand expectedRevision command).mapErr CliError.message
      let updated := "Layout updated to revision " ++ toString topology.revision ++ "."
      pure (if endpoint = .unavailable then
        updated ++ " It will take effect when rflow host starts." else updated, written)

end Endpoint

/-! ## Looking up screens -/

/-- A text stands for the screen with that id; if there is none, it stands for the only screen that
bears it as a name. -/
def ScreenTopology.Means (topology : ScreenTopology) (query : String) (screenId : ScreenId) :
    Prop :=
  (∃ screen ∈ topology.screens, screen.screenId = screenId ∧ screenId.value = query) ∨
    (∀ screen ∈ topology.screens, screen.screenId.value ≠ query) ∧
      ∃ screen, screen.screenId = screenId ∧ topology.screens.filter (·.named query) = [screen]

theorem resolveScreenId_eq_ok {topology : ScreenTopology} {query : String} {screenId : ScreenId} :
    resolveScreenId topology query = .ok screenId ↔ topology.Means query screenId := by
  unfold resolveScreenId ScreenTopology.Means
  cases found : topology.screens.find? fun screen => screen.screenId.value = query with
  | some screen =>
      have member := List.mem_of_find?_eq_some found
      have isQuery : screen.screenId.value = query := by simpa using List.find?_some found
      simp only [Outcome.ok.injEq]
      constructor
      · rintro rfl
        exact Or.inl ⟨screen, member, rfl, isQuery⟩
      · rintro (⟨other, -, rfl, same⟩ | ⟨unnamed, -⟩)
        · exact congrArg ScreenId.mk (isQuery.trans same.symm)
        · exact absurd isQuery (unnamed screen member)
  | none =>
      have unnamed : ∀ screen ∈ topology.screens, screen.screenId.value ≠ query := by
        simpa using List.find?_eq_none.mp found
      have noId : ¬ ∃ screen ∈ topology.screens,
          screen.screenId = screenId ∧ screenId.value = query := by
        rintro ⟨screen, member, rfl, isQuery⟩
        exact unnamed screen member isQuery
      rw [or_iff_right noId, and_iff_right unnamed]
      dsimp only
      split
      · rename_i screen only
        simp [only, eq_comm]
      · rename_i nothing
        simp [nothing]
      · rename_i others _
        simp only [reduceCtorEq, false_iff]
        rintro ⟨screen, -, only⟩
        exact others screen only

/-- The texts that a subcommand names screens by. -/
def LayoutSubcommand.queries : LayoutSubcommand → List String
  | apply .. => []
  | place screen anchor .. => [anchor, screen]
  | link leaving entering _ => [leaving.screen, entering.screen]
  | unlink edge => [edge.screen]
  | unplace screen | setSize screen _ | clearSize screen => [screen]

theorem resolveEdge_eq_ok {topology : ScreenTopology} {value : EdgeSpec} {edge : ScreenEdge} :
    resolveEdge topology value = .ok edge ↔
      topology.Means value.screen edge.screenId ∧ edge.edge = value.edge := by
  obtain ⟨screenId, side⟩ := edge
  simp only [resolveEdge, Outcome.bind_eq_ok, resolveScreenId_eq_ok, Outcome.pure_eq,
    Outcome.ok.injEq, ScreenEdge.mk.injEq]
  constructor
  · rintro ⟨_, isMeant, rfl, rfl⟩
    exact ⟨isMeant, rfl⟩
  · rintro ⟨isMeant, rfl⟩
    exact ⟨screenId, isMeant, rfl, rfl⟩

/-- A subcommand that looks up screens submits the revision of the topology, and a command about the
screens that its texts stand for there. -/
theorem request_eq_ok {topology : ScreenTopology} {edit : LayoutSubcommand} {expectedRevision : Nat}
    {command : LayoutCommand} (lookedUp : edit.queries ≠ [])
    (requested : edit.request topology = .ok (expectedRevision, command)) :
    expectedRevision = topology.revision ∧
      List.Forall₂ topology.Means edit.queries command.named := by
  cases edit <;> simp only [LayoutSubcommand.request, Outcome.bind_eq_ok, resolveScreenId_eq_ok,
    resolveEdge_eq_ok, Outcome.pure_eq, Outcome.ok.injEq, Prod.mk.injEq] at requested
  case apply => exact absurd rfl lookedUp
  case place =>
      obtain ⟨_, first, _, second, rfl, rfl⟩ := requested
      exact ⟨rfl, .cons second (.cons first .nil)⟩
  case link =>
      obtain ⟨_, first, _, second, rfl, rfl⟩ := requested
      exact ⟨rfl, .cons first.1 (.cons second.1 .nil)⟩
  case unlink =>
      obtain ⟨_, first, rfl, rfl⟩ := requested
      exact ⟨rfl, .cons first.1 .nil⟩
  all_goals
    obtain ⟨_, first, rfl, rfl⟩ := requested
    exact ⟨rfl, .cons first .nil⟩

/-! ## Submitting edits -/

namespace TopologyFiles

variable {files start : TopologyFiles} {topology view : ScreenTopology} {state : TopologyState}

/-- The files resolve to the topology. -/
def Shows (files : TopologyFiles) (topology : ScreenTopology) : Prop :=
  ∃ state, files.loadState = .ok state ∧ state.layout.resolve state.inventory = .ok topology

theorem shows_of_load {found : Option ScreenTopology} (loaded : files.load = .ok found) :
    files.Shows (found.getD default) := by
  unfold load at loaded
  split_ifs at loaded with absent
  · obtain rfl := Outcome.ok.inj loaded
    obtain ⟨inventory, layout⟩ := files
    obtain ⟨rfl, rfl⟩ : layout = .absent ∧ inventory = .absent := absent
    exact ⟨_, rfl, rfl⟩
  · simp only [Outcome.bind_eq_ok, Outcome.mapErr_eq_ok, Outcome.pure_eq,
      Outcome.ok.injEq] at loaded
    obtain ⟨state, loaded, topology, resolved, rfl⟩ := loaded
    exact ⟨state, loaded, resolved⟩

theorem shows_of_requestTopology {endpoint : Endpoint}
    (current : ∀ snapshot, endpoint = .serving snapshot → files.Shows snapshot)
    (fetched : endpoint.requestTopology files = .ok view) : files.Shows view := by
  cases endpoint with
  | serving snapshot =>
      obtain rfl := Outcome.ok.inj fetched
      exact current snapshot rfl
  | failing error => cases fetched
  | unavailable =>
      simp only [Endpoint.requestTopology, Outcome.bind_eq_ok, Outcome.mapErr_eq_ok,
        Outcome.pure_eq, Outcome.ok.injEq] at fetched
      obtain ⟨found, loaded, rfl⟩ := fetched
      exact shows_of_load loaded

/-- A command at a revision commits exactly if the stored layout has this revision and accepts
it. -/
theorem applyLayoutCommand_isOk_iff {expectedRevision : Nat} {command : LayoutCommand}
    (loaded : files.loadState = .ok state) :
    (files.applyLayoutCommand expectedRevision command).IsOk ↔
      state.layout.revision = expectedRevision ∧
        (state.layout.apply state.inventory command).IsOk := by
  constructor
  · rintro ⟨⟨topology, written⟩, applied⟩
    simp only [applyLayoutCommand, apply, loaded, Outcome.ok_bind, Outcome.bind_eq_ok,
      Outcome.mapErr_eq_ok] at applied
    obtain ⟨_, same, layout, accepted, -⟩ := applied
    exact ⟨Outcome.require_eq_ok.mp same, layout, accepted⟩
  · rintro ⟨rfl, accepts⟩
    exact applyLayoutCommand_isOk loaded accepts

end TopologyFiles

theorem submitLayoutCommand_eq_ok {files written : TopologyFiles} {expectedRevision : Nat}
    {command : LayoutCommand} {endpoint : Endpoint} {text : String}
    (submitted : endpoint.submitLayoutCommand files expectedRevision command =
      .ok (text, written)) :
    ∃ topology, files.applyLayoutCommand expectedRevision command = .ok (topology, written) := by
  cases endpoint <;> simp only [Endpoint.submitLayoutCommand, Outcome.bind_eq_ok,
    Outcome.mapErr_eq_ok, Outcome.pure_eq, Outcome.ok.injEq, Prod.mk.injEq,
    reduceCtorEq] at submitted
  all_goals
    obtain ⟨⟨topology, _⟩, applied, -, rfl⟩ := submitted
    exact ⟨topology, applied⟩

theorem submitLayoutCommand_isOk_iff {files : TopologyFiles} {expectedRevision : Nat}
    {command : LayoutCommand} {endpoint : Endpoint}
    (reachable : ∀ error, endpoint ≠ .failing error) :
    (endpoint.submitLayoutCommand files expectedRevision command).IsOk ↔
      (files.applyLayoutCommand expectedRevision command).IsOk := by
  constructor
  · rintro ⟨⟨text, written⟩, submitted⟩
    obtain ⟨topology, applied⟩ := submitLayoutCommand_eq_ok submitted
    exact ⟨_, applied⟩
  · rintro ⟨⟨topology, written⟩, applied⟩
    cases endpoint with
    | failing error => exact absurd rfl (reachable error)
    | unavailable => exact ⟨_, by simp only [Endpoint.submitLayoutCommand, applied]; rfl⟩
    | serving snapshot => exact ⟨_, by simp only [Endpoint.submitLayoutCommand, applied]; rfl⟩

/-- An edit is about the screens that its texts stand for in the topology that was fetched.  Until
it is submitted the store may have whole calls, one after the other: it commits exactly if the
stored layout is still the one that was fetched and accepts it, and then that layout is stored with
the edit. -/
theorem layout_edit_commits_iff {start files : TopologyFiles} {view : ScreenTopology}
    {first second : Endpoint} {edit : LayoutSubcommand} {expectedRevision : Nat}
    {command : LayoutCommand} {state : TopologyState}
    (current : ∀ snapshot, first = .serving snapshot → start.Shows snapshot)
    (fetched : first.requestTopology start = .ok view) (lookedUp : edit.queries ≠ [])
    (requested : edit.request view = .ok (expectedRevision, command))
    (evolves : start.Evolves files) (below : view.revision < u64Max)
    (loaded : files.loadState = .ok state) (reachable : ∀ error, second ≠ .failing error) :
    List.Forall₂ view.Means edit.queries command.named ∧
      ∃ old, start.loadState = .ok old ∧ old.layout.resolve old.inventory = .ok view ∧
        ((second.submitLayoutCommand files expectedRevision command).IsOk ↔
          state.layout = old.layout ∧ (old.layout.apply state.inventory command).IsOk) ∧
        ∀ text written,
          second.submitLayoutCommand files expectedRevision command = .ok (text, written) →
            ∃ layout, old.layout.apply state.inventory command = .ok layout ∧
              written = { inventory := .inventory state.inventory, layout := .current layout } := by
  obtain ⟨rfl, meant⟩ := request_eq_ok lookedUp requested
  obtain ⟨old, loadedOld, shown⟩ := TopologyFiles.shows_of_requestTopology current fetched
  have revision : view.revision = old.layout.revision := by
    rw [(ScreenLayout.resolve_eq_ok.mp shown).2]
  have same : state.layout.revision = view.revision ↔ state.layout = old.layout := by
    rw [revision]
    refine ⟨evolves.unchanged loadedOld loaded (revision ▸ below), fun unchanged => ?_⟩
    rw [unchanged]
  refine ⟨meant, old, loadedOld, shown, ?_, fun text written submitted => ?_⟩
  · rw [submitLayoutCommand_isOk_iff reachable,
      TopologyFiles.applyLayoutCommand_isOk_iff loaded, same]
    refine and_congr_right fun unchanged => ?_
    rw [unchanged]
  · obtain ⟨topology, applied⟩ := submitLayoutCommand_eq_ok submitted
    have unchanged : state.layout = old.layout :=
      same.mp ((TopologyFiles.applyLayoutCommand_isOk_iff loaded).mp ⟨_, applied⟩).1
    have committed :
        files.apply view.revision state.inventory command = .ok (topology, written) := by
      simpa only [TopologyFiles.applyLayoutCommand, loaded, Outcome.ok_bind] using applied
    obtain ⟨again, layout, loadedAgain, accepted, rfl⟩ := TopologyFiles.apply_eq_ok committed
    obtain rfl := Outcome.ok.inj (loaded.symm.trans loadedAgain)
    exact ⟨layout, unchanged ▸ accepted, rfl⟩

/-- A device is placed by its name while no host is running. -/
theorem layout_edit_commits_iff_offline :
    ∃ view expectedRevision command,
      Endpoint.unavailable.requestTopology sampleUnplaced = .ok view ∧
        (LayoutSubcommand.place "laptop" "local" .rightOf false).request view =
          .ok (expectedRevision, command) ∧
        command.named = [⟨"local"⟩, ⟨"laptop/main"⟩] ∧
        (Endpoint.unavailable.submitLayoutCommand sampleUnplaced expectedRevision
          command).IsOk := by
  have loaded : sampleUnplaced.loadState =
      .ok { layout := default, inventory := sampleArrival } := rfl
  obtain ⟨view, fetched, revision⟩ : ∃ view,
      Endpoint.unavailable.requestTopology sampleUnplaced = .ok view ∧ view.revision = 0 :=
    ⟨_, rfl, rfl⟩
  have requested : (LayoutSubcommand.place "laptop" "local" .rightOf false).request view =
      .ok (0, .place ⟨"laptop/main"⟩ ⟨"local"⟩ .rightOf false) := by
    obtain rfl := Outcome.ok.inj fetched
    decide +kernel
  have reachable : ∀ error, Endpoint.unavailable ≠ .failing error := by simp
  obtain ⟨-, old, loadedOld, -, commits, -⟩ := layout_edit_commits_iff
    (fun _ serving => by cases serving) fetched (by simp [LayoutSubcommand.queries]) requested
    .start (by rw [revision]; decide) loaded reachable
  obtain rfl := Outcome.ok.inj (loaded.symm.trans loadedOld)
  refine ⟨view, 0, _, fetched, requested, rfl, commits.mpr ⟨rfl, ?_⟩⟩
  exact ⟨_, rfl⟩

end Rflow
