import Rflow.Core.LayoutEdits

/-!
# The topology store

Two files hold the state that survives a run: the inventory of reported screens and the layout.  The
layout file is in the current format or in the legacy one, which is a whole topology.  File contents
are kept as decoded values, and the file system itself does not fail here.
-/

namespace Rflow

open Foundation

structure TopologyState where
  layout : ScreenLayout
  inventory : ScreenInventory
  deriving DecidableEq

inductive InventoryFile where
  | absent
  | undecodable
  | inventory (inventory : ScreenInventory)
  deriving DecidableEq

inductive LayoutFile where
  | absent
  | undecodable
  | current (layout : ScreenLayout)
  | legacy (topology : ScreenTopology)
  deriving DecidableEq

structure TopologyFiles where
  inventory : InventoryFile
  layout : LayoutFile
  deriving DecidableEq

/-- The inventory entry that a topology implies for one of its screens. -/
def ScreenNode.descriptor (node : ScreenNode) : ScreenDescriptor where
  screenId := node.screenId
  deviceId := node.deviceId
  deviceName := node.deviceName
  name := node.name
  logicalSize := node.logicalSize
  primary := node.thisDevice
  online := node.online
  thisDevice := node.thisDevice

/-- The inventory that a topology implies. -/
def ScreenInventory.fromTopology (topology : ScreenTopology) : ScreenInventory where
  screens := topology.screens.map ScreenNode.descriptor

namespace TopologyFiles

def loadState (files : TopologyFiles) : Outcome String TopologyState := do
  let cachedInventory ← match files.inventory with
    | .absent => .ok default
    | .undecodable => .err "decode screen inventory"
    | .inventory inventory => .ok inventory
  match files.layout with
  | .absent => pure { layout := default, inventory := cachedInventory }
  | .undecodable => .err "decode screen topology"
  | .current layout =>
      (layout.validate cachedInventory).mapErr LayoutError.display
      pure { layout, inventory := cachedInventory }
  | .legacy topology =>
      topology.validate
      let inventory := ScreenInventory.fromTopology topology
      let layout := ScreenLayout.fromTopology topology
      (layout.validate inventory).mapErr LayoutError.display
      pure { layout, inventory }

def saveInventory (files : TopologyFiles) (inventory : ScreenInventory) :
    Outcome String TopologyFiles := do
  inventory.validate.mapErr LayoutError.display
  pure { files with inventory := .inventory inventory }

def staleRevision (expected current : Nat) : String :=
  "stale topology revision: expected " ++ toString expected ++ ", current is " ++ toString current

def apply (files : TopologyFiles) (expectedRevision : Nat) (inventory : ScreenInventory)
    (command : LayoutCommand) : Outcome String (ScreenTopology × TopologyFiles) := do
  let state ← files.loadState
  Outcome.require (state.layout.revision = expectedRevision)
    (staleRevision expectedRevision state.layout.revision)
  let layout ← (state.layout.apply inventory command).mapErr LayoutError.display
  let files ← files.saveInventory inventory
  let files := { files with layout := .current layout }
  let topology ← (layout.resolve inventory).mapErr LayoutError.display
  pure (topology, files)

def replace (files : TopologyFiles) (expectedRevision : Nat) (topology : ScreenTopology) :
    Outcome String (ScreenTopology × TopologyFiles) := do
  topology.validate
  let state ← files.loadState
  Outcome.require (state.layout.revision = expectedRevision)
    (staleRevision expectedRevision state.layout.revision)
  let topology := { topology with revision := saturatingSucc state.layout.revision }
  let inventory := ScreenInventory.fromTopology topology
  let layout := ScreenLayout.fromTopology topology
  (layout.validate inventory).mapErr LayoutError.display
  let files ← files.saveInventory inventory
  pure (topology, { files with layout := .current layout })

/-! ## What the operations read and write -/

end TopologyFiles

/-- The inventory that a file gives: a missing file is an empty inventory. -/
inductive InventoryFile.Holds : InventoryFile → ScreenInventory → Prop
  | missing : Holds .absent default
  | stored (inventory : ScreenInventory) : Holds (.inventory inventory) inventory

/-- The layout that a file gives: a missing file is the default layout, a legacy one is
converted. -/
inductive LayoutFile.Holds : LayoutFile → ScreenLayout → Prop
  | missing : Holds .absent default
  | stored (layout : ScreenLayout) : Holds (.current layout) layout
  | converted (topology : ScreenTopology) : Holds (.legacy topology) (.fromTopology topology)

theorem LayoutFile.Holds.unique {file : LayoutFile} {layout other : ScreenLayout}
    (holds : file.Holds layout) (holdsOther : file.Holds other) : layout = other := by
  cases holds <;> cases holdsOther <;> rfl

namespace TopologyFiles

variable {files written : TopologyFiles} {state : TopologyState} {topology : ScreenTopology}
  {expectedRevision : Nat} {inventory : ScreenInventory}

/-- What the files load as, one case for each form of the layout file. -/
inductive Loads (files : TopologyFiles) : TopologyState → Prop
  | unplaced (cached : ScreenInventory) (held : files.inventory.Holds cached)
      (missing : files.layout = .absent) : Loads files { layout := default, inventory := cached }
  | current (layout : ScreenLayout) (cached : ScreenInventory)
      (held : files.inventory.Holds cached) (stored : files.layout = .current layout)
      (wellFormed : layout.WellFormed cached) : Loads files { layout, inventory := cached }
  | legacy (topology : ScreenTopology) (cached : ScreenInventory)
      (held : files.inventory.Holds cached) (stored : files.layout = .legacy topology)
      (accepted : topology.WellFormed)
      (wellFormed : (ScreenLayout.fromTopology topology).WellFormed (.fromTopology topology)) :
      Loads files
        { layout := .fromTopology topology, inventory := .fromTopology topology }

theorem loadState_eq_ok : files.loadState = .ok state ↔ files.Loads state := by
  obtain ⟨inventoryFile, layoutFile⟩ := files
  constructor
  · intro loads
    have cached : ∃ cached, inventoryFile.Holds cached ∧
        loadState ⟨.inventory cached, layoutFile⟩ = .ok state := by
      cases inventoryFile with
      | absent => exact ⟨default, .missing, loads⟩
      | undecodable => cases loads
      | inventory inventory => exact ⟨inventory, .stored inventory, loads⟩
    obtain ⟨cached, held, loads⟩ := cached
    cases layoutFile with
    | absent =>
        obtain rfl := Outcome.ok.inj loads
        exact .unplaced cached held rfl
    | undecodable => cases loads
    | current layout =>
        simp only [loadState, Outcome.ok_bind, Outcome.check_bind_eq_ok, Outcome.mapErr_eq_ok,
          ScreenLayout.validate_eq_ok, Outcome.pure_eq, Outcome.ok.injEq] at loads
        obtain ⟨wellFormed, rfl⟩ := loads
        exact .current layout cached held rfl wellFormed
    | legacy topology =>
        simp only [loadState, Outcome.ok_bind, Outcome.check_bind_eq_ok, Outcome.mapErr_eq_ok,
          ScreenTopology.validate_eq_ok, ScreenLayout.validate_eq_ok, Outcome.pure_eq,
          Outcome.ok.injEq] at loads
        obtain ⟨accepted, wellFormed, rfl⟩ := loads
        exact .legacy topology cached held rfl accepted wellFormed
  · intro loads
    cases loads with
    | unplaced cached held missing =>
        obtain rfl := missing
        cases held <;> rfl
    | current layout cached held stored wellFormed =>
        obtain rfl := stored
        have valid := ScreenLayout.validate_eq_ok.mpr wellFormed
        cases held <;> simp [loadState, valid, Outcome.mapErr]
    | legacy topology cached held stored accepted wellFormed =>
        obtain rfl := stored
        have valid := ScreenLayout.validate_eq_ok.mpr wellFormed
        have validTopology := ScreenTopology.validate_eq_ok.mpr accepted
        cases held <;> simp [loadState, valid, validTopology, Outcome.mapErr]

/-- The loaded layout is the one that the layout file gives. -/
theorem Loads.holds (loads : files.Loads state) : files.layout.Holds state.layout := by
  cases loads with
  | unplaced _ _ missing =>
      rw [missing]
      exact .missing
  | current layout _ _ stored =>
      rw [stored]
      exact .stored layout
  | legacy topology _ _ stored =>
      rw [stored]
      exact .converted topology

theorem saveInventory_eq_ok :
    files.saveInventory inventory = .ok written ↔
      inventory.validate = .ok () ∧ written = { files with inventory := .inventory inventory } := by
  simp only [saveInventory, Outcome.check_bind_eq_ok, Outcome.mapErr_eq_ok, Outcome.pure_eq,
    Outcome.ok.injEq]
  exact and_congr_right fun _ => eq_comm

end TopologyFiles

/-! ## Saving and loading -/

/-- An inventory has the screens that a layout names. -/
structure ScreenLayout.Names (layout : ScreenLayout) (inventory : ScreenInventory) : Prop where
  links : ∀ link ∈ layout.links, inventory.contains link.fromEdge.screenId = true ∧
    inventory.contains link.toEdge.screenId = true
  overrides : ∀ value ∈ layout.sizeOverrides, inventory.contains value.screenId = true

/-- A layout is as valid for every valid inventory with the screens that it names. -/
theorem ScreenLayout.WellFormed.of_names {layout : ScreenLayout} {old inventory : ScreenInventory}
    (wellFormed : layout.WellFormed old) (names : layout.Names inventory)
    (valid : inventory.validate = .ok ()) : layout.WellFormed inventory := by
  refine ⟨wellFormed.schema, ScreenInventory.validate_eq_ok.mp valid, ⟨fun link member => ?_,
    wellFormed.links.facing, wellFormed.links.exclusive⟩, fun value member => ?_,
    wellFormed.overridesDistinct⟩
  · obtain ⟨leaving, entering⟩ := names.links link member
    exact ⟨ScreenInventory.contains_iff.mp leaving, ScreenInventory.contains_iff.mp entering⟩
  · exact ScreenInventory.contains_iff.mp (names.overrides value member)

namespace TopologyFiles

variable {files written : TopologyFiles} {state : TopologyState} {inventory : ScreenInventory}

/-- A saved inventory is loaded again with the layout unchanged exactly when the layout file is not
a legacy one that implies another inventory. -/
theorem load_after_save_iff (loaded : files.loadState = .ok state)
    (names : state.layout.Names inventory) (saved : files.saveInventory inventory = .ok written) :
    written.loadState = .ok { state with inventory } ↔
      ∀ topology, files.layout = .legacy topology →
        ScreenInventory.fromTopology topology = inventory := by
  obtain ⟨valid, rfl⟩ := saveInventory_eq_ok.mp saved
  cases loadState_eq_ok.mp loaded with
  | unplaced cached held missing =>
      refine iff_of_true ?_ (by simp [missing])
      exact loadState_eq_ok.mpr (.unplaced inventory (.stored inventory) missing)
  | current layout cached held stored wellFormed =>
      refine iff_of_true ?_ (by simp [stored])
      exact loadState_eq_ok.mpr
        (.current layout inventory (.stored inventory) stored (wellFormed.of_names names valid))
  | legacy topology cached held stored accepted wellFormed =>
      have reloaded := loadState_eq_ok.mpr
        (.legacy topology inventory (.stored inventory) stored accepted wellFormed :
          Loads { files with inventory := .inventory inventory } _)
      rw [reloaded, stored]
      simp only [Outcome.ok.injEq, TopologyState.mk.injEq, true_and, LayoutFile.legacy.injEq,
        forall_eq']

theorem load_after_save_current :
    loadState { inventory := .inventory sampleInventory, layout := .current default } =
      .ok { layout := default, inventory := sampleInventory } := by
  have loaded : loadState { inventory := .absent, layout := .current default } =
      .ok { layout := default, inventory := default } := rfl
  have saved : saveInventory { inventory := .absent, layout := .current default } sampleInventory =
      .ok { inventory := .inventory sampleInventory, layout := .current default } := rfl
  exact (load_after_save_iff loaded ⟨by simp [default], by simp [default]⟩ saved).mpr (by simp)

/-- Over a legacy file the saved inventory is not loaded again. -/
theorem legacy_hides_inventory :
    ∃ (files written : TopologyFiles) (state : TopologyState),
      files.layout = .legacy default ∧ files.loadState = .ok state ∧
        state.layout.Names sampleInventory ∧ files.saveInventory sampleInventory = .ok written ∧
        written.loadState ≠ .ok { state with inventory := sampleInventory } :=
  ⟨{ inventory := .absent, layout := .legacy default }, _, _, rfl, rfl,
    ⟨by simp [ScreenLayout.fromTopology, default], by simp [ScreenLayout.fromTopology, default]⟩,
        rfl,
    by decide +kernel⟩

end TopologyFiles
end Rflow
