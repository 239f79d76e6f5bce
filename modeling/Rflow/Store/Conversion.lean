import Rflow.Core.Session
import Rflow.Foundation.Keyed
import Rflow.Store.TopologyStore

/-!
# Layouts with inventories as topologies

A topology is a layout and an inventory in one.  Splitting it and resolving the parts again gives
the topology back, the two validators agree on it, and resolving any layout and splitting the result
gives the layout back up to the order of its overrides.  So a legacy file loses nothing.
-/

namespace Rflow

open Foundation

/-- The routing view of an inventory entry without an override. -/
def ScreenDescriptor.node (screen : ScreenDescriptor) : ScreenNode where
  screenId := screen.screenId
  deviceId := screen.deviceId
  deviceName := screen.deviceName
  name := screen.name
  logicalSize := screen.logicalSize
  sizeOverride := none
  online := screen.online
  thisDevice := screen.thisDevice

/-- The inventory lists the screens of the topology in its order; only which of them are primary
does not show there. -/
def ScreenInventory.Lists (inventory : ScreenInventory) (topology : ScreenTopology) : Prop :=
  inventory.screens.map ScreenDescriptor.node =
    topology.screens.map fun node => { node with sizeOverride := none }

theorem ScreenInventory.lists_fromTopology (topology : ScreenTopology) :
    (ScreenInventory.fromTopology topology).Lists topology := by
  rw [Lists, fromTopology, List.map_map]
  rfl

variable {inventory : ScreenInventory} {topology : ScreenTopology} {layout : ScreenLayout}
  {screenId : ScreenId} {size : ScreenSize}

theorem ScreenInventory.Lists.screenIds (lists : inventory.Lists topology) :
    inventory.screens.map ScreenDescriptor.screenId =
      topology.screens.map ScreenNode.screenId := by
  have ids := congrArg (List.map ScreenNode.screenId) lists
  rwa [List.map_map, List.map_map] at ids

namespace ScreenLayout

/-! ## Overrides -/

/-- The override of a screen in the layout. -/
def overrideOf (layout : ScreenLayout) (screenId : ScreenId) : Option ScreenSize :=
  (layout.sizeOverrides.find? fun value => value.screenId = screenId).map (·.size)

theorem overrideOf_eq_some (distinct : Keyed.Distinct ScreenSizeOverride.screenId
    layout.sizeOverrides) :
    layout.overrideOf screenId = some size ↔ { screenId, size } ∈ layout.sizeOverrides := by
  rw [overrideOf, Option.map_eq_some_iff]
  simp only [distinct.find?_eq_some]
  constructor
  · rintro ⟨value, ⟨member, rfl⟩, rfl⟩
    exact member
  · exact fun member => ⟨_, ⟨member, rfl⟩, rfl⟩

/-- Resolving puts the override of the layout into the routing view. -/
theorem resolveScreen_eq (layout : ScreenLayout) (screen : ScreenDescriptor) :
    layout.resolveScreen screen =
      { screen.node with sizeOverride := layout.overrideOf screen.node.screenId } := rfl

theorem mem_fromTopology :
    { screenId, size } ∈ (fromTopology topology).sizeOverrides ↔
      ∃ node ∈ topology.screens, node.screenId = screenId ∧ node.sizeOverride = some size := by
  simp [fromTopology, and_comm]

/-- The overrides taken from a topology with distinct ids are distinct. -/
theorem distinct_fromTopology (distinct : Keyed.Distinct ScreenNode.screenId topology.screens) :
    Keyed.Distinct ScreenSizeOverride.screenId (fromTopology topology).sizeOverrides := by
  refine distinct.filterMap fun node value made => ?_
  obtain ⟨_, -, rfl⟩ := Option.map_eq_some_iff.mp made
  rfl

theorem overrideOf_fromTopology (distinct : Keyed.Distinct ScreenNode.screenId topology.screens)
    {node : ScreenNode} (member : node ∈ topology.screens) :
    (fromTopology topology).overrideOf node.screenId = node.sizeOverride := by
  refine Option.ext fun size => ?_
  rw [overrideOf_eq_some (distinct_fromTopology distinct), mem_fromTopology]
  constructor
  · rintro ⟨other, otherMember, same, set⟩
    rwa [← distinct.eq_of_key otherMember member same]
  · exact fun set => ⟨node, member, rfl, set⟩

/-! ## Back and forth -/

/-- The two validators agree on a topology and its parts. -/
theorem wellFormed_fromTopology_iff (lists : inventory.Lists topology) :
    (fromTopology topology).WellFormed inventory ↔ topology.WellFormed := by
  constructor
  · intro wellFormed
    exact ⟨lists.screenIds ▸ wellFormed.ids, lists.screenIds ▸ wellFormed.links⟩
  · intro wellFormed
    refine ⟨rfl, ?_, ?_, ?_, distinct_fromTopology wellFormed.ids.distinct⟩
    · rw [lists.screenIds]
      exact wellFormed.ids
    · rw [lists.screenIds]
      exact wellFormed.links
    · rw [lists.screenIds]
      intro value member
      obtain ⟨node, listed, same, -⟩ := mem_fromTopology.mp member
      exact List.mem_map.mpr ⟨node, listed, same⟩

/-- Resolving the parts of a valid topology gives it back. -/
theorem resolve_fromTopology (lists : inventory.Lists topology) (wellFormed : topology.WellFormed) :
    (fromTopology topology).resolve inventory = .ok topology := by
  have restored : inventory.screens.map (fromTopology topology).resolveScreen =
      topology.screens := by
    calc inventory.screens.map (fromTopology topology).resolveScreen
        = (inventory.screens.map ScreenDescriptor.node).map fun node =>
            { node with sizeOverride := (fromTopology topology).overrideOf node.screenId } := by
          rw [List.map_map]
          rfl
      _ = topology.screens.map fun node =>
            { node with sizeOverride := (fromTopology topology).overrideOf node.screenId } := by
          rw [lists, List.map_map]
          rfl
      _ = topology.screens.map id := by
          refine List.map_congr_left fun node member => ?_
          rw [overrideOf_fromTopology wellFormed.ids.distinct member]
          rfl
      _ = topology.screens := List.map_id _
  refine resolve_eq_ok.mpr ⟨(wellFormed_fromTopology_iff lists).mpr wellFormed, ?_⟩
  rw [restored]
  rfl

/-- The overrides of a resolved layout are those of the layout, in the order of the inventory. -/
theorem perm_overrides (resolved : layout.resolve inventory = .ok topology) :
    (fromTopology topology).sizeOverrides.Perm layout.sizeOverrides := by
  have taken := distinct_fromTopology (WellFormed.resolved resolved).ids.distinct
  obtain ⟨wellFormed, rfl⟩ := resolve_eq_ok.mp resolved
  have distinct : Keyed.Distinct ScreenSizeOverride.screenId layout.sizeOverrides :=
    wellFormed.overridesDistinct
  refine (List.perm_ext_iff_of_nodup taken.nodup distinct.nodup).mpr ?_
  rintro ⟨screenId, size⟩
  rw [mem_fromTopology]
  constructor
  · rintro ⟨node, listed, rfl, set⟩
    obtain ⟨screen, -, rfl⟩ := List.mem_map.mp listed
    exact (overrideOf_eq_some distinct).mp set
  · intro member
    obtain ⟨screen, listed, same⟩ := List.mem_map.mp (wellFormed.overridesKnown _ member)
    obtain rfl : screen.screenId = screenId := same
    refine ⟨layout.resolveScreen screen, List.mem_map_of_mem listed, rfl, ?_⟩
    rw [resolveScreen_eq]
    exact (overrideOf_eq_some distinct).mpr member

/-- Splitting a resolved layout gives the layout back. -/
theorem fromTopology_of_resolve (resolved : layout.resolve inventory = .ok topology) :
    topology.validate = .ok () ∧ (fromTopology topology).revision = layout.revision ∧
      (fromTopology topology).links = layout.links ∧
      (fromTopology topology).sizeOverrides.Perm layout.sizeOverrides := by
  have valid := ScreenTopology.validate_eq_ok.mpr (WellFormed.resolved resolved)
  have perm := perm_overrides resolved
  obtain ⟨-, rfl⟩ := resolve_eq_ok.mp resolved
  exact ⟨valid, rfl, rfl, perm⟩

end ScreenLayout

namespace TopologyFiles

/-- A legacy file loads exactly when its topology is valid, into its two parts. -/
theorem loadState_legacy {files : TopologyFiles} {state : TopologyState}
    (stored : files.layout = .legacy topology) (readable : files.inventory ≠ .undecodable) :
    files.loadState = .ok state ↔ topology.validate = .ok () ∧
      state = { layout := .fromTopology topology, inventory := .fromTopology topology } := by
  have lists := ScreenInventory.lists_fromTopology topology
  rw [loadState_eq_ok, ScreenTopology.validate_eq_ok]
  constructor
  · intro loads
    cases loads with
    | unplaced _ _ missing => cases missing.symm.trans stored
    | current _ _ _ current => cases current.symm.trans stored
    | legacy other _ _ same accepted =>
        obtain rfl := LayoutFile.legacy.inj (same.symm.trans stored)
        exact ⟨accepted, rfl⟩
  · rintro ⟨accepted, rfl⟩
    obtain ⟨cached, held⟩ : ∃ cached, files.inventory.Holds cached := by
      cases kept : files.inventory with
      | absent => exact ⟨default, .missing⟩
      | undecodable => exact absurd kept readable
      | inventory inventory => exact ⟨inventory, .stored inventory⟩
    exact .legacy topology cached held stored accepted
      ((ScreenLayout.wellFormed_fromTopology_iff lists).mpr accepted)

end TopologyFiles

/-- A layout with an inventory is equivalent to a topology: the validators agree on a topology and
its parts, resolving the parts of a valid topology gives it back, and splitting a resolved layout
gives the layout back up to the order of its overrides.  A legacy file loads, with whatever readable
inventory beside it, exactly when its topology is valid, and then it resolves to that topology. -/
theorem layout_inventory_topology :
    (∀ topology inventory, inventory.Lists topology →
      (topology.validate = .ok () ↔
        (ScreenLayout.fromTopology topology).validate inventory = .ok ()) ∧
      (topology.validate = .ok () →
        (ScreenLayout.fromTopology topology).resolve inventory = .ok topology)) ∧
    (∀ layout inventory topology, ScreenLayout.resolve layout inventory = .ok topology →
      topology.validate = .ok () ∧
        (ScreenLayout.fromTopology topology).revision = layout.revision ∧
        (ScreenLayout.fromTopology topology).links = layout.links ∧
        (ScreenLayout.fromTopology topology).sizeOverrides.Perm layout.sizeOverrides) ∧
    ∀ (files : TopologyFiles) topology, files.layout = .legacy topology →
      files.inventory ≠ .undecodable →
      (files.loadState.IsOk ↔ topology.validate = .ok ()) ∧
        ∀ state, files.loadState = .ok state →
          state.layout.resolve state.inventory = .ok topology := by
  refine ⟨fun topology inventory lists => ⟨?_, fun valid => ?_⟩,
    fun layout inventory topology => ScreenLayout.fromTopology_of_resolve,
    fun files topology stored readable => ⟨⟨?_, fun valid => ?_⟩, fun state loaded => ?_⟩⟩
  · rw [ScreenTopology.validate_eq_ok, ScreenLayout.validate_eq_ok,
      ScreenLayout.wellFormed_fromTopology_iff lists]
  · exact ScreenLayout.resolve_fromTopology lists (ScreenTopology.validate_eq_ok.mp valid)
  · rintro ⟨state, loaded⟩
    exact ((TopologyFiles.loadState_legacy stored readable).mp loaded).1
  · exact ⟨_, (TopologyFiles.loadState_legacy stored readable).mpr ⟨valid, rfl⟩⟩
  · obtain ⟨valid, rfl⟩ := (TopologyFiles.loadState_legacy stored readable).mp loaded
    exact ScreenLayout.resolve_fromTopology (ScreenInventory.lists_fromTopology topology)
      (ScreenTopology.validate_eq_ok.mp valid)

theorem layout_inventory_topology_sample :
    (ScreenLayout.fromTopology (sampleTopology true)).resolve
        (.fromTopology (sampleTopology true)) = .ok (sampleTopology true) ∧
      ∃ state, TopologyFiles.loadState
          { inventory := .absent, layout := .legacy (sampleTopology true) } = .ok state ∧
        state.layout.resolve state.inventory = .ok (sampleTopology true) := by
  have valid : (sampleTopology true).validate = .ok () := rfl
  obtain ⟨parts, -, legacy⟩ := layout_inventory_topology
  refine ⟨(parts _ _ (ScreenInventory.lists_fromTopology _)).2 valid, ?_⟩
  obtain ⟨loads, resolves⟩ := legacy
    { inventory := .absent, layout := .legacy (sampleTopology true) } _ rfl (by decide)
  obtain ⟨state, loaded⟩ := loads.mpr valid
  exact ⟨state, loaded, resolves state loaded⟩

end Rflow
