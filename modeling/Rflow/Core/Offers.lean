import Rflow.Core.LayoutCommands
import Rflow.Core.Placement

/-!
# Offered positions

The positions that are offered as free are those where the placement can be carried out.  The offer
scans the links from the two edges outwards, the command looks for a link that meets its own; both
look at the same two edges.
-/

namespace Rflow

open Foundation

theorem foldl_appendNew_eq_nil {items found : List ScreenId} :
    items.foldl appendNew found = [] ↔ items = [] ∧ found = [] := by
  induction items generalizing found with
  | nil => simp
  | cons item items induction =>
      rw [List.foldl_cons, induction]
      unfold appendNew
      split_ifs with listed
      · simpa using fun _ => List.ne_nil_of_mem listed
      · simp

theorem ScreenLink.across_eq_none {link : ScreenLink} {edge : ScreenEdge} :
    link.across edge = none ↔ ¬ link.Uses edge := by
  rw [ScreenLink.uses_iff]
  unfold across
  split_ifs with leaving entering
  · simp [leaving]
  · simp [entering]
  · simp [leaving, entering]

namespace ScreenTopology

variable {topology : ScreenTopology} {anchorId screenId : ScreenId}

/-- Nobody occupies some edges exactly when no link uses one of them. -/
theorem occupants_eq_nil {edges : List ScreenEdge} :
    topology.occupants edges = [] ↔
      ∀ link ∈ topology.links, ∀ edge ∈ edges, ¬ link.Uses edge := by
  rw [occupants, foldl_appendNew_eq_nil]
  simp only [List.flatMap_eq_nil_iff, List.filterMap_eq_nil_iff, ScreenLink.across_eq_none,
    and_true]

/-- The offer for one position. -/
def offer (topology : ScreenTopology) (anchorId screenId : ScreenId)
    (position : RelativePosition) : PlacementAvailability where
  position := position
  occupiedBy := topology.occupants
    [{ screenId := anchorId, edge := (placementEdges position).1 },
      { screenId, edge := (placementEdges position).2 }]

/-- Offers are made for two different screens of the topology, one for each position. -/
theorem placementAvailability_eq_ok {availability : List PlacementAvailability} :
    topology.placementAvailability anchorId screenId = .ok availability ↔
      anchorId ≠ screenId ∧ (topology.find anchorId).isSome ∧ (topology.find screenId).isSome ∧
        availability =
          [RelativePosition.leftOf, .rightOf, .above, .below].map
            (topology.offer anchorId screenId) := by
  simp only [placementAvailability, Outcome.check_bind_eq_ok, Outcome.require_eq_ok,
    Outcome.pure_eq, Outcome.ok.injEq]
  rw [eq_comm (a := availability)]
  rfl

end ScreenTopology

namespace ScreenLayout

variable {layout : ScreenLayout} {inventory : ScreenInventory} {topology : ScreenTopology}
  {anchorId screenId : ScreenId}

/-- A resolved topology has the screens of the inventory. -/
theorem isSome_find_of_resolve (resolved : layout.resolve inventory = .ok topology) :
    (topology.find screenId).isSome ↔ inventory.contains screenId = true := by
  obtain ⟨-, rfl⟩ := resolve_eq_ok.mp resolved
  rw [ScreenTopology.find_isSome_iff, map_resolveScreen_screenId, ScreenInventory.contains_iff]

/-- A position is free exactly when the placement there can be carried out. -/
theorem offer_free_iff (resolved : layout.resolve inventory = .ok topology)
    (knownAnchor : inventory.contains anchorId = true)
    (knownScreen : inventory.contains screenId = true) (different : anchorId ≠ screenId)
    (position : RelativePosition) :
    (topology.offer anchorId screenId position).occupiedBy = [] ↔
      (layout.apply inventory (.place screenId anchorId position false)).IsOk := by
  obtain ⟨wellFormed, rfl⟩ := resolve_eq_ok.mp resolved
  have edit : (LayoutCommand.place screenId anchorId position false).Edit := trivial
  have facing : (placementEdges position).1.opposite = (placementEdges position).2 := by
    cases position <;> rfl
  calc (ScreenTopology.offer _ anchorId screenId position).occupiedBy = []
      ↔ ∀ link ∈ layout.links, ¬ link.Meets
          { fromEdge := { screenId := anchorId, edge := (placementEdges position).1 }
            toEdge := { screenId, edge := (placementEdges position).2 } } := by
        rw [ScreenTopology.offer, ScreenTopology.occupants_eq_nil]
        simp [ScreenLink.Meets]
    _ ↔ ¬ (LayoutCommand.place screenId anchorId position false).Refused layout inventory := by
        rw [not_refused_iff_of_joined rfl rfl]
        simp [knownAnchor, knownScreen, different, ScreenLink.Facing, facing]
    _ ↔ (layout.apply inventory (.place screenId anchorId position false)).IsOk := by
        simp only [Outcome.IsOk, apply_edit_eq_ok wellFormed edit, exists_and_left,
          exists_eq, and_true]

/-- Every two different screens are offered each position once, as free exactly when the placement
there can be carried out. -/
theorem offers_exact (resolved : layout.resolve inventory = .ok topology)
    (knownAnchor : inventory.contains anchorId = true)
    (knownScreen : inventory.contains screenId = true) (different : anchorId ≠ screenId) :
    ∃ availability, topology.placementAvailability anchorId screenId = .ok availability ∧
      availability.map PlacementAvailability.position = [.leftOf, .rightOf, .above, .below] ∧
      ∀ offer ∈ availability, offer.occupiedBy = [] ↔
        (layout.apply inventory (.place screenId anchorId offer.position false)).IsOk := by
  refine ⟨_, ScreenTopology.placementAvailability_eq_ok.mpr ⟨different,
    (isSome_find_of_resolve resolved).mpr knownAnchor,
    (isSome_find_of_resolve resolved).mpr knownScreen, rfl⟩, rfl, fun offer member => ?_⟩
  obtain ⟨position, -, rfl⟩ := List.mem_map.mp member
  exact offer_free_iff resolved knownAnchor knownScreen different position

end ScreenLayout
end Rflow
