import Rflow.Core.DiagramCells

/-!
# Complete diagrams

What a diagram shows.  It is drawn when the breadth-first cells, computed without bound, are in
range, as they are with fewer than 2147483646 screens.  It is complete when walks along the links
lead to every screen and all walks to a screen end at the same cell.  Whether two screens have the
same cell is not looked at.
-/

namespace Rflow

open Foundation BreadthFirst

namespace ScreenTopology

variable {topology : ScreenTopology} {first : ScreenNode}

/-! ## Placement -/

/-- The last column that links lead to. -/
def lastColumn (topology : ScreenTopology) (first : ScreenNode) : Int :=
  (xs (topology.breadthFirst first).placed).max?.getD (-1)

/-- The screens that no links lead to. -/
def others (topology : ScreenTopology) (first : ScreenNode) : List ScreenNode :=
  unplaced topology.screens (topology.breadthFirst first).placed

/-- The placement in numbers without bound. -/
def idealPlacement (topology : ScreenTopology) (first : ScreenNode) : Placement where
  positions := (topology.breadthFirst first).placed ++
    row (topology.lastColumn first + 2) (topology.others first)
  connected := (topology.breadthFirst first).placed.length
  conflict := (topology.breadthFirst first).conflict

/-- The numbers of the placement and of the grid are in the range of `i32`. -/
structure FitsFrom (topology : ScreenTopology) (first : ScreenNode) : Prop where
  met : InRange topology.links (topology.breadthFirst first)
  last : topology.lastColumn first + 2 + (topology.others first).length ≤ i32Max
  columns : Close (xs (topology.idealPlacement first).positions)
  lines : Close (ys (topology.idealPlacement first).positions)

theorem origin_mem (topology : ScreenTopology) (first : ScreenNode) :
    (first.screenId, (0, 0)) ∈ (topology.breadthFirst first).placed :=
  (topology.breadthFirst_finished first).1.origin

theorem lastColumn_nonneg (topology : ScreenTopology) (first : ScreenNode) :
    0 ≤ topology.lastColumn first :=
  le_max?_getD (List.mem_map_of_mem (topology.origin_mem first)) (-1)

theorem placeScreens_eq_ok {placement : Placement} (chosen : topology.firstScreen = some first)
    (distinct : (topology.screens.map ScreenNode.screenId).Nodup) :
    topology.placeScreens = .ok placement ↔
      (InRange topology.links (topology.breadthFirst first) ∧
        topology.lastColumn first + 2 + (topology.others first).length ≤ i32Max) ∧
      placement = topology.idealPlacement first := by
  have positive := topology.lastColumn_nonneg first
  have range : i32Min = -2147483648 ∧ i32Max = 2147483647 := ⟨rfl, rfl⟩
  simp only [placeScreens, chosen, Outcome.bind_eq_ok, placeQueued_start_eq_ok, checkedAdd_eq_ok,
    Outcome.pure_eq, Outcome.ok.injEq]
  constructor
  · rintro ⟨_, ⟨met, rfl⟩, _, ⟨inRange, rfl⟩, _, placed, rfl⟩
    obtain ⟨last, rfl⟩ := (placeRest_eq_ok distinct inRange).mp placed
    exact ⟨⟨met, last⟩, rfl⟩
  · rintro ⟨⟨met, last⟩, rfl⟩
    have inRange : InI32 (topology.lastColumn first + 2) := ⟨by omega, by omega⟩
    exact ⟨_, ⟨met, rfl⟩, _, ⟨inRange, rfl⟩, _,
      (placeRest_eq_ok distinct inRange).mpr ⟨last, rfl⟩, rfl⟩

/-- The fuel of the placement is always enough. -/
theorem placeScreens_terminates (topology : ScreenTopology) :
    topology.placeScreens.Fails fun _ => False := by
  rw [placeScreens]
  split
  · exact Outcome.fails_panic
  · rename_i first _
    have enough : (placementNodes topology.links first.screenId).length ≤
        0 + topology.placementFuel := by
      rw [length_placementNodes]
      exact Nat.le_add_left _ _
    have looped : (placeQueued topology.links topology.placementFuel
        (Search.start first.screenId)).Fails fun _ => False :=
      placeQueued_terminates (Search.explored_start first.screenId) enough
    refine looped.bind fun _ _ => checkedAdd_terminates.bind fun _ _ => ?_
    exact (placeRest_terminates _ _ _).bind fun _ _ => Outcome.fails_ok

theorem mem_keys_idealPlacement {screen : ScreenNode} (member : screen ∈ topology.screens) :
    screen.screenId ∈ (topology.idealPlacement first).positions.map Prod.fst := by
  rw [idealPlacement, List.map_append, List.mem_append]
  by_cases placed : screen.screenId ∈ (topology.breadthFirst first).placed.map Prod.fst
  · exact .inl placed
  · have other : screen ∈ topology.others first :=
      List.mem_filter.mpr ⟨member, by simpa using placed⟩
    refine .inr ?_
    rw [keys_row]
    exact List.mem_map_of_mem other

/-- A diagram is drawn exactly when the numbers fit. -/
theorem renderDiagram_isOk_iff (chosen : topology.firstScreen = some first)
    (distinct : (topology.screens.map ScreenNode.screenId).Nodup) :
    (renderDiagram topology).IsOk ↔ topology.FitsFrom first := by
  have nonempty : (topology.idealPlacement first).positions ≠ [] :=
    List.append_ne_nil_of_left_ne_nil (List.ne_nil_of_mem (topology.origin_mem first)) _
  have drawn (placed : topology.placeScreens = .ok (topology.idealPlacement first)) :=
    renderDiagram_of_placed placed nonempty fun _ => mem_keys_idealPlacement
  constructor
  · rintro ⟨result, rendered⟩
    obtain ⟨placement, placed, -⟩ := Outcome.bind_eq_ok.mp rendered
    obtain ⟨⟨met, last⟩, rfl⟩ := (placeScreens_eq_ok chosen distinct).mp placed
    obtain ⟨columns, lines⟩ := (drawn placed).mp ⟨result, rendered⟩
    exact ⟨met, last, columns, lines⟩
  · intro fits
    have placed := (placeScreens_eq_ok chosen distinct).mpr ⟨⟨fits.met, fits.last⟩, rfl⟩
    exact (drawn placed).mpr ⟨fits.columns, fits.lines⟩

/-! ## Small topologies -/

theorem exists_firstScreen (nonempty : topology.screens ≠ []) :
    ∃ first, topology.firstScreen = some first := by
  obtain ⟨screen, screens, same⟩ := List.exists_cons_of_ne_nil nonempty
  refine Option.isSome_iff_exists.mp ?_
  simp [firstScreen, same]

theorem firstScreen_mem (chosen : topology.firstScreen = some first) :
    first ∈ topology.screens := by
  rcases Option.or_eq_some_iff.mp chosen with found | ⟨-, head⟩
  · exact List.mem_of_find?_eq_some found
  · exact List.mem_of_head? head

/-- Walks end at screens. -/
theorem mem_of_walk (chosen : topology.firstScreen = some first)
    (wellFormed : topology.WellFormed) {id : ScreenId} {cell : Cell}
    (walk : Walk (neighbours topology.links) first.screenId id cell) :
    ∃ screen ∈ topology.screens, screen.screenId = id := by
  cases walk with
  | nil => exact ⟨first, firstScreen_mem chosen, rfl⟩
  | step walk edge =>
      obtain ⟨link, member, _, left, -⟩ := mem_neighbours.mp edge
      obtain ⟨fromKnown, toKnown⟩ := wellFormed.links.known link member
      rcases link.leave_eq_some left with ⟨-, rfl⟩ | ⟨-, rfl⟩
      · exact List.mem_map.mp toKnown
      · exact List.mem_map.mp fromKnown

/-- Every screen has a place or is one of the others. -/
theorem length_placed_add_others (chosen : topology.firstScreen = some first)
    (wellFormed : topology.WellFormed) :
    (topology.breadthFirst first).placed.length + (topology.others first).length ≤
      topology.screens.length := by
  have finished := (topology.breadthFirst_finished first).1
  have distinct : ((topology.idealPlacement first).positions.map Prod.fst).Nodup := by
    rw [idealPlacement, List.map_append, keys_row]
    refine List.Nodup.append finished.distinct
      (wellFormed.ids.distinct.sublist (List.filter_sublist.map _)) ?_
    intro id placed other
    obtain ⟨screen, unplaced, rfl⟩ := List.mem_map.mp other
    exact absurd placed (by simpa using (List.mem_filter.mp unplaced).2)
  have contained : (topology.idealPlacement first).positions.map Prod.fst ⊆
      topology.screens.map ScreenNode.screenId := by
    intro id member
    rw [idealPlacement, List.map_append, keys_row] at member
    rcases List.mem_append.mp member with placed | other
    · obtain ⟨cell, walk⟩ := finished.mem_keys_iff.mp placed
      obtain ⟨screen, listed, rfl⟩ := mem_of_walk chosen wellFormed walk
      exact List.mem_map_of_mem listed
    · obtain ⟨screen, unplaced, rfl⟩ := List.mem_map.mp other
      exact List.mem_map_of_mem (List.mem_filter.mp unplaced).1
  have shorter := (distinct.subperm contained).length_le
  rw [idealPlacement, List.map_append, keys_row, List.length_append, List.length_map,
    List.length_map, List.length_map] at shorter
  exact shorter

theorem delta_short (edge : Edge) : |edge.delta.1| ≤ 1 ∧ |edge.delta.2| ≤ 1 := by
  cases edge <;> decide

/-- A coordinate of the linked screens differs by less than their number. -/
theorem narrow_of_short (coordinate : Cell →+ Int)
    (short : ∀ edge : Edge, |coordinate edge.delta| ≤ 1) (topology : ScreenTopology)
    (first : ScreenNode) : (topology.breadthFirst first).Narrow coordinate := by
  refine Search.run_narrow (fun id cell edge out => ?_) _ _
  obtain ⟨_, _, side, _, delta⟩ := mem_neighbours.mp out
  rw [map_add, add_sub_cancel_left, ← delta]
  exact short side

theorem breadthFirst_narrow (topology : ScreenTopology) (first : ScreenNode) :
    (topology.breadthFirst first).Narrow Prod.fst ∧
      (topology.breadthFirst first).Narrow Prod.snd :=
  ⟨narrow_of_short (AddMonoidHom.fst Int Int) (fun edge => (delta_short edge).1) topology first,
    narrow_of_short (AddMonoidHom.snd Int Int) (fun edge => (delta_short edge).2) topology first⟩

theorem lastColumn_mem (topology : ScreenTopology) (first : ScreenNode) :
    ∃ entry ∈ (topology.breadthFirst first).placed, entry.2.1 = topology.lastColumn first := by
  have nonempty : xs (topology.breadthFirst first).placed ≠ [] :=
    List.ne_nil_of_mem (List.mem_map_of_mem (topology.origin_mem first))
  exact List.mem_map.mp (max?_getD_mem nonempty (-1))

theorem lastColumn_lt (topology : ScreenTopology) (first : ScreenNode) :
    topology.lastColumn first < (topology.breadthFirst first).placed.length := by
  obtain ⟨rightmost, placed, same⟩ := topology.lastColumn_mem first
  have apart :=
    (topology.breadthFirst_narrow first).1 rightmost placed _ (topology.origin_mem first)
  dsimp only at apart
  omega

/-- The row starts behind the last column, which bounds the other columns from both sides. -/
theorem xs_idealPlacement {value : Int}
    (member : value ∈ xs (topology.idealPlacement first).positions) :
    value ≤ topology.lastColumn first + 1 + (topology.others first).length ∧
      topology.lastColumn first - value < (topology.breadthFirst first).placed.length := by
  obtain ⟨entry, listed, rfl⟩ := List.mem_map.mp member
  rcases List.mem_append.mp listed with old | new
  · have below : entry.2.1 ≤ topology.lastColumn first :=
      le_max?_getD (List.mem_map_of_mem old) (-1)
    obtain ⟨rightmost, placed, same⟩ := topology.lastColumn_mem first
    have apart := (topology.breadthFirst_narrow first).1 rightmost placed entry old
    exact ⟨by omega, by omega⟩
  · obtain ⟨behind, before, -⟩ := mem_row new
    exact ⟨by omega, by omega⟩

/-- The row is on the line of the first screen. -/
theorem ys_idealPlacement {value : Int}
    (member : value ∈ ys (topology.idealPlacement first).positions) :
    ∃ entry ∈ (topology.breadthFirst first).placed, entry.2.2 = value := by
  obtain ⟨entry, listed, rfl⟩ := List.mem_map.mp member
  rcases List.mem_append.mp listed with old | new
  · exact ⟨entry, old, rfl⟩
  · exact ⟨_, topology.origin_mem first, (mem_row new).2.2.1.symm⟩

theorem met_of_few (few : (topology.breadthFirst first).placed.length ≤ i32Max) :
    InRange topology.links (topology.breadthFirst first) := by
  have range : i32Min = -2147483648 ∧ i32Max = 2147483647 := ⟨rfl, rfl⟩
  obtain ⟨narrowX, narrowY⟩ := topology.breadthFirst_narrow first
  have origin := topology.origin_mem first
  intro entry member edge out
  obtain ⟨_, _, side, _, delta⟩ := mem_neighbours.mp out
  have shortX := abs_le.mp (delta_short side).1
  have shortY := abs_le.mp (delta_short side).2
  have right := narrowX entry member _ origin
  have left := narrowX _ origin entry member
  have lower := narrowY entry member _ origin
  have upper := narrowY _ origin entry member
  dsimp only at right left lower upper
  rw [← delta]
  refine ⟨?_, ?_⟩
  · rw [Prod.fst_add]
    exact ⟨by omega, by omega⟩
  · rw [Prod.snd_add]
    exact ⟨by omega, by omega⟩

/-- The numbers fit with few enough screens. -/
theorem fitsFrom_of_few (chosen : topology.firstScreen = some first)
    (wellFormed : topology.WellFormed) (few : topology.screens.length + 2 ≤ i32Max) :
    topology.FitsFrom first := by
  have total := length_placed_add_others chosen wellFormed
  have last := topology.lastColumn_lt first
  refine ⟨met_of_few (by omega), by omega, ?_, ?_⟩
  · intro value member other member'
    have high := (xs_idealPlacement member).1
    have low := (xs_idealPlacement member').2
    omega
  · intro value member other member'
    obtain ⟨entry, placed, rfl⟩ := ys_idealPlacement member
    obtain ⟨entry', placed', rfl⟩ := ys_idealPlacement member'
    have apart := (topology.breadthFirst_narrow first).2 entry placed entry' placed'
    omega

/-! ## Completeness -/

/-- A walk along the links from the first screen ends at a screen and, with the steps across the
edges, at a cell. -/
def Reaches (topology : ScreenTopology) (id : ScreenId) (cell : Cell) : Prop :=
  ∃ first, topology.firstScreen = some first ∧
    Walk (neighbours topology.links) first.screenId id cell

/-- Walks lead to every screen, and all walks to a screen end at the same cell. -/
structure Consistent (topology : ScreenTopology) : Prop where
  reached : ∀ screen ∈ topology.screens, ∃ cell, topology.Reaches screen.screenId cell
  agree : ∀ id cell other, topology.Reaches id cell → topology.Reaches id other → cell = other

/-- Walks to different screens end at different cells. -/
def Separate (topology : ScreenTopology) : Prop :=
  ∀ id other cell, topology.Reaches id cell → topology.Reaches other cell → id = other

/-- The numbers of the placement and of the grid are in the range of `i32`. -/
def FitsI32 (topology : ScreenTopology) : Prop :=
  ∃ first, topology.firstScreen = some first ∧ topology.FitsFrom first

/-- The numbers fit with fewer than 2147483646 screens. -/
theorem fitsI32_of_few (nonempty : topology.screens ≠ []) (valid : topology.validate = .ok ())
    (few : topology.screens.length + 2 ≤ i32Max) : topology.FitsI32 := by
  obtain ⟨first, chosen⟩ := exists_firstScreen nonempty
  exact ⟨first, chosen, fitsFrom_of_few chosen (validate_eq_ok.mp valid) few⟩

/-- Every screen has a cell of its own, and every link leads to the neighbouring cell on its
side. -/
structure Shown (topology : ScreenTopology) (placement : Placement) : Prop where
  placed : ∀ screen ∈ topology.screens,
    ∃ cell, placeOf placement.positions screen.screenId = some cell
  apart : ∀ screen ∈ topology.screens, ∀ other ∈ topology.screens, screen ≠ other →
    placeOf placement.positions screen.screenId ≠ placeOf placement.positions other.screenId
  neighbouring : ∀ link ∈ topology.links, ∃ source target,
    placeOf placement.positions link.fromEdge.screenId = some source ∧
      placeOf placement.positions link.toEdge.screenId = some target ∧
        target = source + link.fromEdge.edge.delta

/-- The diagram is drawn, and if it is complete, every screen is shown. -/
def ShowsEvery (topology : ScreenTopology) : Prop :=
  ∃ placement diagram complete,
    topology.placeScreens = .ok placement ∧ renderDiagram topology = .ok (diagram, complete) ∧
      (complete = true → topology.Shown placement)

theorem reaches_iff (chosen : topology.firstScreen = some first) {id : ScreenId} {cell : Cell} :
    topology.Reaches id cell ↔ Walk (neighbours topology.links) first.screenId id cell := by
  simp [Reaches, chosen]

theorem conflict_eq_false_iff (chosen : topology.firstScreen = some first) :
    (topology.breadthFirst first).conflict = false ↔
      ∀ id cell other, topology.Reaches id cell → topology.Reaches id other → cell = other := by
  rw [← Bool.not_eq_true, (topology.breadthFirst_finished first).1.conflict_iff]
  simp only [reaches_iff chosen, not_exists, not_and, not_not]

theorem mem_placed_keys_iff (chosen : topology.firstScreen = some first) {id : ScreenId} :
    id ∈ (topology.breadthFirst first).placed.map Prod.fst ↔ ∃ cell, topology.Reaches id cell := by
  simp only [(topology.breadthFirst_finished first).1.mem_keys_iff, reaches_iff chosen]

/-- All screens are counted exactly when walks lead to all of them. -/
theorem connected_iff (chosen : topology.firstScreen = some first)
    (wellFormed : topology.WellFormed) :
    (topology.breadthFirst first).placed.length = topology.screens.length ↔
      ∀ screen ∈ topology.screens, ∃ cell, topology.Reaches screen.screenId cell := by
  have atMost := length_placed_add_others chosen wellFormed
  constructor
  · intro all screen member
    by_contra unreached
    have other : screen ∈ topology.others first := by
      refine List.mem_filter.mpr ⟨member, decide_eq_true ?_⟩
      rwa [mem_placed_keys_iff chosen]
    have some_other := List.length_pos_of_mem other
    omega
  · intro reached
    have contained : topology.screens.map ScreenNode.screenId ⊆
        (topology.breadthFirst first).placed.map Prod.fst := by
      intro id member
      obtain ⟨screen, listed, rfl⟩ := List.mem_map.mp member
      exact (mem_placed_keys_iff chosen).mpr (reached screen listed)
    have longer := (wellFormed.ids.distinct.subperm contained).length_le
    rw [List.length_map, List.length_map] at longer
    omega

/-- When the walks are consistent, screens have the cells where walks end. -/
theorem placeOf_iff (chosen : topology.firstScreen = some first) (consistent : topology.Consistent)
    {id : ScreenId} {cell : Cell} :
    placeOf (topology.idealPlacement first).positions id = some cell ↔
      topology.Reaches id cell := by
  have finished := (topology.breadthFirst_finished first).1
  have none : topology.others first = [] := by
    refine List.filter_eq_nil_iff.mpr fun screen member => ?_
    simpa using (mem_placed_keys_iff chosen).mpr (consistent.reached screen member)
  have free := (conflict_eq_false_iff chosen).mpr consistent.agree
  rw [idealPlacement, none, row, List.append_nil, placeOf_eq_some finished.distinct,
    finished.mem_placed_iff free, reaches_iff chosen]

/-- A link leads from the screen on one side to the cell across its edge. -/
theorem Reaches.link {link : ScreenLink} (member : link ∈ topology.links) {cell : Cell}
    (reaches : topology.Reaches link.fromEdge.screenId cell) :
    topology.Reaches link.toEdge.screenId (cell + link.fromEdge.edge.delta) := by
  obtain ⟨first, chosen, walk⟩ := reaches
  refine ⟨first, chosen, walk.step (mem_neighbours.mpr ⟨link, member, _, ?_, rfl⟩)⟩
  exact if_pos rfl

/-- The flag says that the walks are consistent. -/
theorem complete_iff (chosen : topology.firstScreen = some first)
    (wellFormed : topology.WellFormed)
    (placed : topology.placeScreens = .ok (topology.idealPlacement first)) {diagram : String}
    {complete : Bool} (rendered : renderDiagram topology = .ok (diagram, complete)) :
    complete = true ↔ topology.Consistent := by
  rw [renderDiagram_complete placed rendered]
  show (topology.breadthFirst first).placed.length = topology.screens.length ∧
    (topology.breadthFirst first).conflict = false ↔ topology.Consistent
  rw [connected_iff chosen wellFormed, conflict_eq_false_iff chosen]
  exact ⟨fun ⟨reached, agree⟩ => ⟨reached, agree⟩, fun ⟨reached, agree⟩ => ⟨reached, agree⟩⟩

/-- What a complete diagram promises holds exactly when different screens have different cells. -/
theorem shown_iff (chosen : topology.firstScreen = some first) (wellFormed : topology.WellFormed)
    (consistent : topology.Consistent) :
    topology.Shown (topology.idealPlacement first) ↔ topology.Separate := by
  constructor
  · intro shown id other cell reaches reaches'
    obtain ⟨screen, member, rfl⟩ := mem_of_walk chosen wellFormed ((reaches_iff chosen).mp reaches)
    obtain ⟨screen', member', rfl⟩ :=
      mem_of_walk chosen wellFormed ((reaches_iff chosen).mp reaches')
    by_contra different
    refine shown.apart screen member screen' member' (fun same => different (same ▸ rfl)) ?_
    rw [(placeOf_iff chosen consistent).mpr reaches, (placeOf_iff chosen consistent).mpr reaches']
  · intro separate
    refine ⟨fun screen member => ?_, fun screen member other member' different same => ?_,
      fun link member => ?_⟩
    · obtain ⟨cell, reaches⟩ := consistent.reached screen member
      exact ⟨cell, (placeOf_iff chosen consistent).mpr reaches⟩
    · obtain ⟨cell, reaches⟩ := consistent.reached screen member
      have here := (placeOf_iff chosen consistent).mpr reaches
      have there := (placeOf_iff chosen consistent).mp (same ▸ here)
      exact different (List.inj_on_of_nodup_map wellFormed.ids.distinct member member'
        (separate _ _ cell reaches there))
    · obtain ⟨known, -⟩ := wellFormed.links.known link member
      obtain ⟨screen, listed, same⟩ := List.mem_map.mp known
      obtain ⟨cell, reaches⟩ := consistent.reached screen listed
      rw [same] at reaches
      exact ⟨cell, _, (placeOf_iff chosen consistent).mpr reaches,
        (placeOf_iff chosen consistent).mpr (reaches.link member), rfl⟩

end ScreenTopology

/-- The diagram of a valid topology with screens is drawn and shows what it promises exactly when
the numbers fit, as they do with fewer than 2147483646 screens, and when walks to different screens
end at different cells if they lead to all screens without contradiction. -/
theorem diagram_shows_every_iff (topology : ScreenTopology) (nonempty : topology.screens ≠ [])
    (valid : topology.validate = .ok ()) :
    topology.ShowsEvery ↔ topology.FitsI32 ∧ (topology.Consistent → topology.Separate) := by
  have wellFormed := ScreenTopology.validate_eq_ok.mp valid
  have distinct := wellFormed.ids.distinct
  obtain ⟨first, chosen⟩ := ScreenTopology.exists_firstScreen nonempty
  constructor
  · rintro ⟨placement, diagram, complete, placed, rendered, shows⟩
    have fits := (ScreenTopology.renderDiagram_isOk_iff chosen distinct).mp ⟨_, rendered⟩
    obtain ⟨-, rfl⟩ := (ScreenTopology.placeScreens_eq_ok chosen distinct).mp placed
    refine ⟨⟨first, chosen, fits⟩, fun consistent => ?_⟩
    have isComplete :=
      (ScreenTopology.complete_iff chosen wellFormed placed rendered).mpr consistent
    exact (ScreenTopology.shown_iff chosen wellFormed consistent).mp (shows isComplete)
  · rintro ⟨⟨first', chosen', fits⟩, separate⟩
    obtain rfl := Option.some.inj (chosen.symm.trans chosen')
    obtain ⟨⟨diagram, complete⟩, rendered⟩ :=
      (ScreenTopology.renderDiagram_isOk_iff chosen distinct).mpr fits
    have placed := (ScreenTopology.placeScreens_eq_ok chosen distinct).mpr
      ⟨⟨fits.met, fits.last⟩, rfl⟩
    refine ⟨_, diagram, complete, placed, rendered, fun isComplete => ?_⟩
    have consistent :=
      (ScreenTopology.complete_iff chosen wellFormed placed rendered).mp isComplete
    exact (ScreenTopology.shown_iff chosen wellFormed consistent).mpr (separate consistent)

def deskScreen (name : String) : ScreenNode where
  screenId := ⟨name⟩
  deviceId := ⟨"desk"⟩
  deviceName := "desk"
  name := name
  logicalSize := { width := 1920, height := 1080 }
  sizeOverride := none
  online := true
  thisDevice := false

/-- Two walks to the cell to the right and below, one around each corner, to different screens. -/
def overlapping : ScreenTopology where
  revision := 1
  screens := [deskScreen "a", deskScreen "b", deskScreen "c", deskScreen "d", deskScreen "e"]
  links :=
    [ { fromEdge := ⟨⟨"a"⟩, .right⟩, toEdge := ⟨⟨"b"⟩, .left⟩ },
      { fromEdge := ⟨⟨"a"⟩, .bottom⟩, toEdge := ⟨⟨"c"⟩, .top⟩ },
      { fromEdge := ⟨⟨"b"⟩, .bottom⟩, toEdge := ⟨⟨"d"⟩, .top⟩ },
      { fromEdge := ⟨⟨"c"⟩, .right⟩, toEdge := ⟨⟨"e"⟩, .left⟩ } ]

theorem diagram_shows_every_iff_overlapping :
    overlapping.ShowsEvery ↔
      overlapping.FitsI32 ∧ (overlapping.Consistent → overlapping.Separate) :=
  diagram_shows_every_iff overlapping (by decide) (by decide +kernel)

/-- Two screens lie on each other in a diagram that is called complete. -/
theorem diagram_hides_a_screen :
    overlapping.screens ≠ [] ∧ overlapping.validate = .ok () ∧
      (renderDiagram overlapping).any (fun result => result.2) = true ∧
      ¬ overlapping.ShowsEvery := by
  have complete : (renderDiagram overlapping).any (fun result => result.2) = true := by
    decide +kernel
  refine ⟨by decide, by decide +kernel, complete, ?_⟩
  rintro ⟨placement, diagram, flag, placed, rendered, shows⟩
  have stacked : overlapping.placeScreens.any (fun placement =>
      placeOf placement.positions ⟨"d"⟩ = placeOf placement.positions ⟨"e"⟩) = true := by
    decide +kernel
  rw [rendered] at complete
  rw [placed] at stacked
  exact (shows complete).apart (deskScreen "d") (by decide) (deskScreen "e") (by decide) (by decide)
    (of_decide_eq_true stacked)

end Rflow
