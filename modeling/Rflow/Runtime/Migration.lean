import Rflow.Core.CursorBounds
import Rflow.Core.LayoutCommands
import Rflow.Runtime.Inventory

/-!
# Migrating a direction

The two-screen router of a direction and the topology router over the layout that the direction
migrates to take the same motions.  They agree step by step, except where a motion at a corner of
the screen also pushes out of a left or right border: the topology router then leaves the linked top
or bottom border alone.
-/

namespace Rflow

open Foundation

/-- The border of the active screen that leads to the other one. -/
def ActiveScreen.exit (position : RelativePosition) : ActiveScreen → Edge
  | .localScreen => (placementEdges position).1
  | .remoteScreen => (placementEdges position).2

/-- The screen that the other one leads to. -/
def ActiveScreen.other : ActiveScreen → ActiveScreen
  | .localScreen => .remoteScreen
  | .remoteScreen => .localScreen

/-- The screen of a topology that stands for the active one. -/
def ActiveScreen.node (home away : ScreenNode) : ActiveScreen → ScreenNode
  | .localScreen => home
  | .remoteScreen => away

/-- The route over a topology that corresponds to a route between two screens. -/
def Route.over (home away : ScreenId) : Route → TopologyRoute
  | .localMotion dx dy => .stay home dx dy
  | .remoteMotion dx dy => .stay away dx dy
  | .enterRemote x y => .cross away x y
  | .enterLocal x y => .cross home x y

/-- A motion pushes the cursor out of a border that it is on. -/
structure PressesOut (size : ScreenSize) (x y dx dy : Int) (edge : Edge) : Prop where
  border : TopologyRouter.OnBorder size x y edge
  outward : TopologyRouter.Outward dx dy edge

/-- A motion pushes the cursor out of a left or right border that it is on. -/
def PressesSideways (size : ScreenSize) (x y dx dy : Int) : Prop :=
  PressesOut size x y dx dy .left ∨ PressesOut size x y dx dy .right

/-- A motion pushes the cursor out of a top or bottom border, and out of a left or right border as
well. -/
def PressesCorner (size : ScreenSize) (x y dx dy : Int) (edge : Edge) : Prop :=
  (edge = .top ∨ edge = .bottom) ∧ PressesOut size x y dx dy edge ∧ PressesSideways size x y dx dy

namespace TopologyRouter

variable {size : ScreenSize} {x y dx dy : Int} {edge : Edge}

/-- Away from corners the border that a motion pushes out of is the crossed one. -/
theorem crossedEdge_of_presses (positive : size.Positive) (presses : PressesOut size x y dx dy edge)
    (noCorner : ¬ PressesCorner size x y dx dy edge) :
    crossedEdge size x y dx dy = .ok (some edge) := by
  refine crossedEdge_of_outward positive presses.border presses.outward fun vertical => ?_
  have sideways : ¬ PressesSideways size x y dx dy :=
    fun pressed => noCorner ⟨vertical, presses, pressed⟩
  exact ⟨fun left => sideways (Or.inl ⟨left.1, left.2⟩),
    fun right => sideways (Or.inr ⟨right.1, right.2⟩)⟩

variable {router : TopologyRouter} {node targetNode : ScreenNode} {target : ScreenEdge}

/-- A motion over a linked border presses the barrier. -/
theorem routeMotion_of_presses (found : router.topology.find router.active = some node)
    (positive : node.effectiveSize.Positive) (linked : router.linkedEdge edge = some target)
    (presses : PressesOut node.effectiveSize router.x router.y dx dy edge)
    (noCorner : ¬ PressesCorner node.effectiveSize router.x router.y dx dy edge) :
    router.routeMotion dx dy =
      router.pressEdge node.effectiveSize edge target (saturatingAdd router.x dx)
        (saturatingAdd router.y dy) dx dy none := by
  have measured : router.screenSize router.active = .ok node.effectiveSize :=
    screenSize_eq_ok.mpr ⟨node, found, rfl⟩
  simp only [routeMotion, routeMotionInner, measured, Outcome.ok_bind,
    crossedEdge_of_presses positive presses noCorner, Option.bind_some, linked, Option.map_some]

/-- A motion that does not push out of the only linked border stays and puts the barrier to rest. -/
theorem routeMotion_of_not_presses (found : router.topology.find router.active = some node)
    (positive : node.effectiveSize.Positive)
    (unlinked : ∀ other, other ≠ edge → router.linkedEdge other = none)
    (misses : ¬ PressesOut node.effectiveSize router.x router.y dx dy edge) :
    router.routeMotion dx dy =
      { router with barrier := .reset }.settle node.effectiveSize (saturatingAdd router.x dx)
        (saturatingAdd router.y dy) dx dy := by
  have measured : router.screenSize router.active = .ok node.effectiveSize :=
    screenSize_eq_ok.mpr ⟨node, found, rfl⟩
  obtain ⟨crossed, crosses⟩ : (crossedEdge node.effectiveSize router.x router.y dx dy).IsOk :=
    crossedEdge_isOk positive
  obtain ⟨reached, reaches⟩ : (reachedEdge node.effectiveSize (saturatingAdd router.x dx)
      (saturatingAdd router.y dy) dx dy).IsOk := reachedEdge_isOk positive
  have nowhere : (crossed.bind fun other => (router.linkedEdge other).map
      (Prod.mk other)) = none := by
    cases crossed with
    | none => rfl
    | some other =>
        have pressed := crossedEdge_eq_some crosses
        have apart : other ≠ edge := by
          rintro rfl
          exact misses ⟨pressed.1, pressed.2⟩
        simp [unlinked other apart]
  simp only [routeMotion, routeMotionInner, measured, Outcome.ok_bind, crosses, nowhere, moveInside,
    reaches]

end TopologyRouter

namespace CursorRouter

variable {legacy : CursorRouter} {position : RelativePosition} {size : ScreenSize} {x y dx dy : Int}

/-- The size of the active screen. -/
def activeSize (legacy : CursorRouter) : ScreenSize :=
  match legacy.active with
  | .localScreen => legacy.localSize
  | .remoteScreen => legacy.remoteSize

/-- The size of the other screen. -/
def targetSize (legacy : CursorRouter) : ScreenSize :=
  match legacy.active with
  | .localScreen => legacy.remoteSize
  | .remoteScreen => legacy.localSize

/-- The route of a motion that stays on the active screen. -/
def stayRoute (legacy : CursorRouter) (dx dy : Int) : Route :=
  match legacy.active with
  | .localScreen => .localMotion dx dy
  | .remoteScreen => .remoteMotion dx dy

/-- The route of a motion that enters the other screen. -/
def enterRoute (legacy : CursorRouter) (x y : Int) : Route :=
  match legacy.active with
  | .localScreen => .enterRemote x y
  | .remoteScreen => .enterLocal x y

theorem outwardDistance_of_presses {active : ActiveScreen} {direction : ScreenDirection}
    (cardinal : direction.position = some position) (positive : size.Positive)
    (presses : PressesOut size x y dx dy (active.exit position)) :
    outwardDistance direction x y size dx dy (active = .remoteScreen) =
      .ok (some (TopologyRouter.outward (active.exit position) dx dy)) := by
  obtain ⟨border, outward⟩ := presses
  simp only [outwardDistance, TopologyRouter.checkedPred_of_pos positive.1,
    TopologyRouter.checkedPred_of_pos positive.2, Outcome.ok_bind]
  cases direction <;> cases cardinal <;> cases active <;>
    exact congrArg Outcome.ok (if_pos ⟨border, outward⟩)

theorem outwardDistance_of_not_presses {active : ActiveScreen} {direction : ScreenDirection}
    (cardinal : direction.position = some position) (positive : size.Positive)
    (misses : ¬ PressesOut size x y dx dy (active.exit position)) :
    outwardDistance direction x y size dx dy (active = .remoteScreen) = .ok none := by
  simp only [outwardDistance, TopologyRouter.checkedPred_of_pos positive.1,
    TopologyRouter.checkedPred_of_pos positive.2, Outcome.ok_bind]
  cases direction <;> cases cardinal <;> cases active <;>
    exact congrArg Outcome.ok (if_neg fun pressed => misses ⟨pressed.1, pressed.2⟩)

/-- Where the cursor enters the other screen. -/
def entry (legacy : CursorRouter) (nextX nextY : Int) : Outcome String (Int × Int) :=
  match legacy.active with
  | .localScreen => legacy.remoteEntry nextX nextY
  | .remoteScreen => legacy.localEntry nextX nextY

/-- A motion presses the barrier and then enters the other screen or stays on the active one. -/
theorem routeMotion_eq (legacy : CursorRouter) (dx dy : Int) :
    legacy.routeMotion dx dy =
      (do
        let outward ← outwardDistance legacy.direction legacy.x legacy.y legacy.activeSize dx dy
          (legacy.active = .remoteScreen)
        let pressed := legacy.pressBarrier outward
        if pressed.1 then do
          let point ← legacy.entry (saturatingAdd legacy.x dx) (saturatingAdd legacy.y dy)
          pure (legacy.enterRoute point.1 point.2,
            { legacy with
              barrier := pressed.2, active := legacy.active.other, x := point.1, y := point.2 })
        else do
          let point ← TopologyRouter.clampInto legacy.activeSize (saturatingAdd legacy.x dx)
            (saturatingAdd legacy.y dy)
          pure (legacy.stayRoute dx dy,
            { legacy with barrier := pressed.2, x := point.1, y := point.2 })) := by
  obtain ⟨localSize, remoteSize, direction, active, x, y, barrier⟩ := legacy
  cases active <;> rfl

theorem entry_eq (cardinal : legacy.direction.position = some position) (nextX nextY : Int) :
    legacy.entry nextX nextY =
      TopologyRouter.entryPoint (legacy.active.exit position) legacy.activeSize legacy.targetSize
        nextX nextY := by
  obtain ⟨localSize, remoteSize, direction, active, x, y, barrier⟩ := legacy
  cases direction <;> cases cardinal <;> cases active <;> rfl

end CursorRouter

/-! ## Both routers side by side -/

/-- A topology joins two online screens by one link, at the sides that a direction stands for. -/
structure Migrated (direction : ScreenDirection) (position : RelativePosition)
    (topology : ScreenTopology) (home away : ScreenNode) : Prop where
  cardinal : direction.position = some position
  found : ∀ active : ActiveScreen,
    topology.find (active.node home away).screenId = some (active.node home away)
  online : ∀ active : ActiveScreen, (active.node home away).online = true
  positive : ∀ active : ActiveScreen, (active.node home away).effectiveSize.Positive
  apart : home.screenId ≠ away.screenId
  links : topology.links =
    [{ fromEdge := ⟨home.screenId, ActiveScreen.localScreen.exit position⟩
       toEdge := ⟨away.screenId, ActiveScreen.remoteScreen.exit position⟩ }]

/-- Barriers that have been pressed for the same distance, each at its own name for the border. -/
def SamePress (direction : ScreenDirection) (edge : Edge) (legacy : EdgeBarrier ScreenDirection)
    (barrier : EdgeBarrier Edge) : Prop :=
  (legacy.edge = none ∧ barrier.edge = none) ∨
    (legacy.edge = some direction ∧ barrier.edge = some edge ∧ legacy.distance = barrier.distance)

theorem SamePress.push {direction : ScreenDirection} {edge : Edge}
    {legacy : EdgeBarrier ScreenDirection} {barrier : EdgeBarrier Edge}
    (same : SamePress direction edge legacy barrier) (distance : Int) :
    (legacy.push direction distance).1 = (barrier.push edge distance).1 ∧
      ((legacy.push direction distance).1 = false →
        SamePress direction edge (legacy.push direction distance).2
            (barrier.push edge distance).2) ∧
      ((legacy.push direction distance).1 = true →
        (legacy.push direction distance).2 = .reset ∧ (barrier.push edge distance).2 = .reset) := by
  obtain ⟨fresh, alsoFresh⟩ | ⟨pressed, alsoPressed, distances⟩ := same
  · simp only [EdgeBarrier.push, fresh, alsoFresh, ne_eq, reduceCtorEq, not_false_eq_true, if_true]
    split_ifs <;> simp [SamePress]
  · simp only [EdgeBarrier.push, pressed, alsoPressed, ne_eq, not_true_eq_false,
      if_false, distances]
    split_ifs <;> simp [SamePress]

/-- The two routers are in the same place. -/
structure SamePlace (direction : ScreenDirection) (position : RelativePosition)
    (topology : ScreenTopology) (home away : ScreenNode) (legacy : CursorRouter)
    (router : TopologyRouter) : Prop where
  sameDirection : legacy.direction = direction
  localSize : legacy.localSize = home.effectiveSize
  remoteSize : legacy.remoteSize = away.effectiveSize
  sameTopology : router.topology = topology
  active : router.active = (legacy.active.node home away).screenId
  x : router.x = legacy.x
  y : router.y = legacy.y
  barrier : SamePress direction (legacy.active.exit position) legacy.barrier router.barrier

section Simulation

variable {direction : ScreenDirection} {position : RelativePosition} {topology : ScreenTopology}
  {home away : ScreenNode} {legacy : CursorRouter} {router : TopologyRouter} {dx dy : Int}

theorem Migrated.isOnline (migrated : Migrated direction position topology home away)
    (same : router.topology = topology) (active : ActiveScreen) :
    router.isOnline (active.node home away).screenId = true := by
  rw [TopologyRouter.isOnline, same, migrated.found active, Option.any_some, migrated.online active]

/-- The border towards the other screen is linked to it. -/
theorem Migrated.linkedEdge_exit (migrated : Migrated direction position topology home away)
    {active : ActiveScreen} (same : router.topology = topology)
    (here : router.active = (active.node home away).screenId) :
    router.linkedEdge (active.exit position) =
      some ⟨(active.other.node home away).screenId, active.other.exit position⟩ := by
  have online := migrated.isOnline same active.other
  have apart := migrated.apart
  cases active with
  | localScreen =>
      simp only [ActiveScreen.other, ActiveScreen.node] at here online ⊢
      simp [TopologyRouter.linkedEdge, same, migrated.links, here, online]
  | remoteScreen =>
      simp only [ActiveScreen.other, ActiveScreen.node] at here online ⊢
      simp [TopologyRouter.linkedEdge, same, migrated.links, here, online, apart]

/-- No other border of the active screen is linked. -/
theorem Migrated.linkedEdge_other (migrated : Migrated direction position topology home away)
    {active : ActiveScreen} (same : router.topology = topology)
    (here : router.active = (active.node home away).screenId) {edge : Edge}
    (other : edge ≠ active.exit position) : router.linkedEdge edge = none := by
  have apart := migrated.apart
  cases active with
  | localScreen =>
      simp only [ActiveScreen.node] at here
      simp [TopologyRouter.linkedEdge, same, migrated.links, here, other.symm, apart.symm]
  | remoteScreen =>
      simp only [ActiveScreen.node] at here
      simp [TopologyRouter.linkedEdge, same, migrated.links, here, other.symm, apart]

theorem SamePlace.activeSize (same : SamePlace direction position topology home away
    legacy router) : legacy.activeSize = (legacy.active.node home away).effectiveSize := by
  unfold CursorRouter.activeSize
  cases legacy.active
  · exact same.localSize
  · exact same.remoteSize

theorem SamePlace.targetSize (same : SamePlace direction position topology home away
    legacy router) : legacy.targetSize = (legacy.active.other.node home away).effectiveSize := by
  unfold CursorRouter.targetSize
  cases legacy.active
  · exact same.remoteSize
  · exact same.localSize

theorem stayRoute_over (home away : ScreenNode) :
    (legacy.stayRoute dx dy).over home.screenId away.screenId =
      .stay (legacy.active.node home away).screenId dx dy := by
  unfold CursorRouter.stayRoute
  cases legacy.active <;> rfl

theorem enterRoute_over (home away : ScreenNode) (x y : Int) :
    (legacy.enterRoute x y).over home.screenId away.screenId =
      .cross (legacy.active.other.node home away).screenId x y := by
  unfold CursorRouter.enterRoute
  cases legacy.active <;> rfl

/-- Both routers take a motion, by corresponding routes and to the same place. -/
def RoutesAlike (direction : ScreenDirection) (position : RelativePosition)
    (topology : ScreenTopology) (home away : ScreenNode) (legacy : CursorRouter)
    (router : TopologyRouter) (dx dy : Int) : Prop :=
  ∃ route nextLegacy nextRouter, legacy.routeMotion dx dy = .ok (route, nextLegacy) ∧
    router.routeMotion dx dy = .ok (route.over home.screenId away.screenId, nextRouter) ∧
    SamePlace direction position topology home away nextLegacy nextRouter

/-- Both routers are on a screen of positive size with room for a motion. -/
theorem Migrated.onScreen (migrated : Migrated direction position topology home away)
    (same : SamePlace direction position topology home away legacy router) (x y : Int) :
    legacy.activeSize.Positive ∧
      router.topology.find router.active = some (legacy.active.node home away) ∧
      (TopologyRouter.clampInto legacy.activeSize x y).IsOk := by
  have positive : legacy.activeSize.Positive := same.activeSize ▸ migrated.positive legacy.active
  refine ⟨positive, ?_, TopologyRouter.clampInto_isOk.mpr positive⟩
  rw [same.sameTopology, same.active, migrated.found]

/-- A motion that does not push towards the other screen moves both cursors alike. -/
theorem routesAlike_of_misses (migrated : Migrated direction position topology home away)
    (same : SamePlace direction position topology home away legacy router)
    (presses : ¬ PressesOut legacy.activeSize legacy.x legacy.y dx dy
      (legacy.active.exit position)) :
    RoutesAlike direction position topology home away legacy router dx dy := by
  have cardinal : legacy.direction.position = some position :=
      same.sameDirection ▸ migrated.cardinal
  obtain ⟨positive, found, point, clamped⟩ :=
    migrated.onScreen same (saturatingAdd legacy.x dx) (saturatingAdd legacy.y dy)
  have distance := CursorRouter.outwardDistance_of_not_presses cardinal positive presses
  have routed : router.routeMotion dx dy = _ := TopologyRouter.routeMotion_of_not_presses found
    (same.activeSize ▸ positive)
    (fun other apart => migrated.linkedEdge_other same.sameTopology same.active apart)
    (by rwa [same.x, same.y, ← same.activeSize])
  rw [← same.activeSize, same.x, same.y] at routed
  refine ⟨legacy.stayRoute dx dy, { legacy with barrier := .reset, x := point.1, y := point.2 },
    { router with barrier := .reset, x := point.1, y := point.2 }, ?_, ?_, ?_⟩
  · rw [CursorRouter.routeMotion_eq, distance]
    simp only [Outcome.ok_bind, CursorRouter.pressBarrier, Bool.false_eq_true, if_false, clamped,
      Outcome.pure_eq]
  · rw [routed, stayRoute_over]
    simp only [TopologyRouter.settle, clamped, Outcome.ok_bind, Outcome.pure_eq, same.active]
  · exact { same with x := rfl, y := rfl, barrier := Or.inl ⟨rfl, rfl⟩ }

/-- A motion that pushes towards the other screen presses both barriers alike, away from corners. -/
theorem routesAlike_of_presses (migrated : Migrated direction position topology home away)
    (same : SamePlace direction position topology home away legacy router)
    (presses : PressesOut legacy.activeSize legacy.x legacy.y dx dy (legacy.active.exit position))
    (noCorner : ¬ PressesCorner legacy.activeSize legacy.x legacy.y dx dy
      (legacy.active.exit position)) :
    RoutesAlike direction position topology home away legacy router dx dy := by
  have cardinal : legacy.direction.position = some position :=
      same.sameDirection ▸ migrated.cardinal
  obtain ⟨positive, found, point, clamped⟩ :=
    migrated.onScreen same (saturatingAdd legacy.x dx) (saturatingAdd legacy.y dy)
  have distance := CursorRouter.outwardDistance_of_presses cardinal positive presses
  have linked := migrated.linkedEdge_exit same.sameTopology same.active
  have routed : router.routeMotion dx dy = _ := TopologyRouter.routeMotion_of_presses found
    (same.activeSize ▸ positive) linked (by rwa [same.x, same.y, ← same.activeSize])
    (by rwa [same.x, same.y, ← same.activeSize])
  rw [← same.activeSize, same.x, same.y] at routed
  obtain ⟨sameFlag, held, given⟩ :=
    same.barrier.push (TopologyRouter.outward (legacy.active.exit position) dx dy)
  rw [← same.sameDirection] at sameFlag held given
  rcases pressed : legacy.barrier.push legacy.direction
    (TopologyRouter.outward (legacy.active.exit position) dx dy) with ⟨flag, left⟩
  rcases alsoPressed : router.barrier.push (legacy.active.exit position)
    (TopologyRouter.outward (legacy.active.exit position) dx dy) with ⟨alsoFlag, alsoLeft⟩
  simp only [pressed, alsoPressed] at sameFlag held given
  subst sameFlag
  cases flag with
  | false =>
      refine ⟨legacy.stayRoute dx dy, { legacy with barrier := left, x := point.1, y := point.2 },
        { router with barrier := alsoLeft, x := point.1, y := point.2 }, ?_, ?_, ?_⟩
      · rw [CursorRouter.routeMotion_eq, distance]
        simp only [Outcome.ok_bind, CursorRouter.pressBarrier, pressed, Bool.false_eq_true,
          if_false, clamped, Outcome.pure_eq]
      · rw [routed, stayRoute_over]
        simp only [TopologyRouter.pressEdge, TopologyRouter.pressBarrier, alsoPressed,
          Bool.false_eq_true, if_false, TopologyRouter.settle, clamped, Outcome.ok_bind,
          Outcome.pure_eq, same.active]
      · exact { same with x := rfl, y := rfl, barrier := same.sameDirection ▸ held rfl }
  | true =>
      obtain ⟨rfl, rfl⟩ := given rfl
      obtain ⟨entered, enters⟩ : (TopologyRouter.entryPoint (legacy.active.exit position)
          legacy.activeSize legacy.targetSize (saturatingAdd legacy.x dx)
          (saturatingAdd legacy.y dy)).IsOk :=
        TopologyRouter.entryPoint_isOk positive
          (same.targetSize ▸ migrated.positive legacy.active.other)
      have measured : { router with barrier := .reset }.screenSize
          (legacy.active.other.node home away).screenId = .ok legacy.targetSize :=
        TopologyRouter.screenSize_eq_ok.mpr
          ⟨_, same.sameTopology ▸ migrated.found legacy.active.other, same.targetSize⟩
      refine ⟨legacy.enterRoute entered.1 entered.2,
        { legacy with
          barrier := .reset, active := legacy.active.other, x := entered.1, y := entered.2 },
        { router with
          barrier := .reset, active := (legacy.active.other.node home away).screenId
          x := entered.1, y := entered.2 }, ?_, ?_, ?_⟩
      · rw [CursorRouter.routeMotion_eq, distance]
        simp only [Outcome.ok_bind, CursorRouter.pressBarrier, pressed, if_true,
          CursorRouter.entry_eq cardinal, enters, Outcome.pure_eq]
      · rw [routed, enterRoute_over]
        simp only [TopologyRouter.pressEdge, TopologyRouter.pressBarrier, alsoPressed, if_true,
          measured, enters, Outcome.ok_bind, Outcome.pure_eq]
      · exact { same with active := rfl, x := rfl, y := rfl, barrier := Or.inl ⟨rfl, rfl⟩ }

theorem routesAlike (migrated : Migrated direction position topology home away)
    (same : SamePlace direction position topology home away legacy router)
    (noCorner : ¬ PressesCorner legacy.activeSize legacy.x legacy.y dx dy
      (legacy.active.exit position)) :
    RoutesAlike direction position topology home away legacy router dx dy := by
  by_cases presses :
      PressesOut legacy.activeSize legacy.x legacy.y dx dy (legacy.active.exit position)
  · exact routesAlike_of_presses migrated same presses noCorner
  · exact routesAlike_of_misses migrated same presses

end Simulation

/-! ## The migrated layout -/

/-- The inventory lists one screen of this device and one of another device, both online. -/
structure TwoScreens (inventory : ScreenInventory) (home away : ScreenDescriptor) : Prop where
  screens : inventory.screens = [home, away] ∨ inventory.screens = [away, home]
  thisDevice : home.thisDevice = true
  otherDevice : away.thisDevice = false
  homeOnline : home.online = true
  awayOnline : away.online = true

/-- The command that a direction is migrated with places the other screen beside this one. -/
theorem migrateLegacyDirection_of_twoScreens {layout : ScreenLayout} {inventory : ScreenInventory}
    {home away : ScreenDescriptor} {direction : ScreenDirection}
    (two : TwoScreens inventory home away) :
    migrateLegacyDirection layout inventory direction = (do
      let position ← Outcome.ofOption "diagonal --direction cannot be migrated to edge topology"
        direction.position
      (layout.apply inventory (.place away.screenId home.screenId position false)).mapErr
        LayoutError.display) := by
  have anchor : ((inventory.screens.find? fun screen => screen.thisDevice && screen.primary).or
      (inventory.screens.find? fun screen => screen.thisDevice)) = some home := by
    rcases two.screens with listed | listed <;> cases primary : home.primary <;>
      simp [listed, two.thisDevice, two.otherDevice, primary]
  have remotes : (inventory.screens.filter fun screen => !screen.thisDevice && screen.online) =
      [away] := by
    rcases two.screens with listed | listed <;>
      simp [listed, two.thisDevice, two.otherDevice, two.awayOnline]
  simp only [migrateLegacyDirection, anchor, remotes, Outcome.ofOption, Outcome.ok_bind]

/-- In a layout without links, joining two edges gives the one link between different screens. -/
theorem link_of_unlinked {layout edited : ScreenLayout} {inventory : ScreenInventory}
    {fromEdge toEdge : ScreenEdge} {replace : Bool} (unlinked : layout.links = [])
    (linked : layout.link inventory fromEdge toEdge replace = .ok edited) :
    fromEdge.screenId ≠ toEdge.screenId ∧
      edited = { layout with links := [{ fromEdge, toEdge }] } := by
  obtain ⟨_, _, apart, _, _, rfl⟩ := ScreenLayout.link_eq_ok.mp linked
  exact ⟨apart, by simp [unlinked]⟩

/-- Without links so far, migration gives the two screens the one link that the direction stands
for. -/
theorem migrated_of_migrateLegacyDirection {layout migratedLayout : ScreenLayout}
    {inventory : ScreenInventory} {home away : ScreenDescriptor} {direction : ScreenDirection}
    {topology : ScreenTopology} (unlinked : layout.links = [])
    (two : TwoScreens inventory home away)
    (homePositive : (layout.resolveScreen home).effectiveSize.Positive)
    (awayPositive : (layout.resolveScreen away).effectiveSize.Positive)
    (migrates : migrateLegacyDirection layout inventory direction = .ok migratedLayout)
    (resolves : migratedLayout.resolve inventory = .ok topology) :
    ∃ position, Migrated direction position topology (layout.resolveScreen home)
      (layout.resolveScreen away) := by
  rw [migrateLegacyDirection_of_twoScreens two] at migrates
  simp only [Outcome.bind_eq_ok, Outcome.ofOption_eq_ok, Outcome.mapErr_eq_ok,
    ScreenLayout.apply_eq_ok] at migrates
  obtain ⟨position, cardinal, _, edited, edits, _, rfl⟩ := migrates
  cases edits with
  | place linked =>
      obtain ⟨apart, rfl⟩ := link_of_unlinked unlinked linked
      have wellFormed := ScreenLayout.WellFormed.resolved resolves
      obtain ⟨_, rfl⟩ := ScreenLayout.resolve_eq_ok.mp resolves
      refine ⟨position, cardinal, fun active => wellFormed.find_of_mem ?_, fun active => ?_,
        fun active => ?_, apart, rfl⟩
      · cases active <;> rcases two.screens with listed | listed <;>
          simp [listed, ActiveScreen.node, ScreenLayout.resolveScreen]
      · cases active
        · exact two.homeOnline
        · exact two.awayOnline
      · cases active
        · exact homePositive
        · exact awayPositive

/-! ## Whole runs -/

/-- One motion for both routers. -/
def routeBoth : Machine.Step (CursorRouter × TopologyRouter) (Int × Int)
    (Route × TopologyRoute) String :=
  fun routers motion => do
    let legacy ← routers.1.routeMotion motion.1 motion.2
    let moved ← routers.2.routeMotion motion.1 motion.2
    pure ([(legacy.1, moved.1)], (legacy.2, moved.2))

/-- The border of the active screen that leads to the other one, for a direction that can be
migrated. -/
def CursorRouter.exit (legacy : CursorRouter) : Option Edge :=
  legacy.direction.position.map fun position => legacy.active.exit position

/-- A motion does not push out of a left or right border while it pushes the cursor over the top or
bottom border that leads to the other screen. -/
def AvoidsCorners (routers : CursorRouter × TopologyRouter) (motion : Int × Int) : Prop :=
  ∀ edge ∈ routers.1.exit,
    ¬ PressesCorner routers.1.activeSize routers.1.x routers.1.y motion.1 motion.2 edge

section Runs

variable {direction : ScreenDirection} {position : RelativePosition} {topology : ScreenTopology}
  {home away : ScreenNode} {legacy : CursorRouter} {router : TopologyRouter}

theorem routeBoth_samePlace (migrated : Migrated direction position topology home away)
    (same : SamePlace direction position topology home away legacy router) {motion : Int × Int}
    (avoids : AvoidsCorners (legacy, router) motion) :
    ∃ route nextLegacy nextRouter,
      routeBoth (legacy, router) motion =
        .ok ([(route, route.over home.screenId away.screenId)], (nextLegacy, nextRouter)) ∧
      SamePlace direction position topology home away nextLegacy nextRouter := by
  have exits : legacy.exit = some (legacy.active.exit position) := by
    rw [CursorRouter.exit, same.sameDirection, migrated.cardinal, Option.map_some]
  obtain ⟨route, nextLegacy, nextRouter, routed, alsoRouted, samePlace⟩ :=
    routesAlike migrated same (avoids _ exits)
  refine ⟨route, nextLegacy, nextRouter, ?_, samePlace⟩
  simp only [routeBoth, routed, alsoRouted, Outcome.ok_bind, Outcome.pure_eq]

/-- From the same place on, both routers take a run away from corners by corresponding routes. -/
theorem run_samePlace (migrated : Migrated direction position topology home away)
    (same : SamePlace direction position topology home away legacy router)
    {motions : List (Int × Int)}
    (avoids : Machine.Along routeBoth AvoidsCorners (legacy, router) motions) :
    ∃ routes final, Machine.run routeBoth (legacy, router) motions = .ok (routes, final) ∧
      ∀ route ∈ routes, route.2 = route.1.over home.screenId away.screenId := by
  induction motions generalizing legacy router with
  | nil => exact ⟨[], (legacy, router), rfl, by simp⟩
  | cons motion motions induction =>
      obtain ⟨route, nextLegacy, nextRouter, stepped, samePlace⟩ :=
        routeBoth_samePlace migrated same avoids.1
      obtain ⟨routes, final, ran, corresponds⟩ :=
        induction samePlace (avoids.2 _ _ stepped)
      refine ⟨_, final, Machine.run_cons_eq_ok.mpr ⟨_, _, _, stepped, ran, rfl⟩, ?_⟩
      rintro other (_ | ⟨_, later⟩)
      · rfl
      · exact corresponds other later

/-- Both routers start in the same place. -/
theorem start_samePlace (migrated : Migrated direction position topology home away)
    (wellFormed : topology.WellFormed) (x y : Int) :
    ∃ legacy router,
      (CursorRouter.new home.effectiveSize away.effectiveSize direction).setLocalPosition x y =
        .ok legacy ∧
      TopologyRouter.new topology home.screenId x y = .ok router ∧
      SamePlace direction position topology home away legacy router := by
  obtain ⟨point, clamped⟩ : (TopologyRouter.clampInto home.effectiveSize x y).IsOk :=
    TopologyRouter.clampInto_isOk.mpr (migrated.positive .localScreen)
  have measured : TopologyRouter.activeSize topology home.screenId = .ok home.effectiveSize :=
    TopologyRouter.activeSize_eq_ok.mpr ⟨home, migrated.found .localScreen, rfl⟩
  have valid : topology.validate = .ok () := ScreenTopology.validate_eq_ok.mpr wellFormed
  refine ⟨{ CursorRouter.new home.effectiveSize away.effectiveSize direction with
      active := .localScreen, x := point.1, y := point.2, barrier := .reset },
    { topology, active := home.screenId, x := point.1, y := point.2, barrier := .reset }, ?_, ?_,
        ?_⟩
  · simp only [CursorRouter.setLocalPosition, CursorRouter.new, clamped, Outcome.ok_bind,
      Outcome.pure_eq]
  · simp only [TopologyRouter.new, valid, measured, clamped, Outcome.ok_bind, Outcome.pure_eq]
  · exact ⟨rfl, rfl, rfl, rfl, rfl, rfl, rfl, Or.inl ⟨rfl, rfl⟩⟩

end Runs

theorem CursorRouter.routeMotion_direction {legacy next : CursorRouter} {dx dy : Int}
    {route : Route}
    (routed : legacy.routeMotion dx dy = .ok (route, next)) :
    next.direction = legacy.direction := by
  rw [routeMotion_eq] at routed
  simp only [Outcome.bind_eq_ok] at routed
  obtain ⟨outward, _, routed⟩ := routed
  split_ifs at routed
  · obtain ⟨_, _, ended⟩ := Outcome.bind_eq_ok.mp routed
    obtain ⟨_, rfl⟩ := Prod.mk.inj (Outcome.ok.inj ended)
    rfl
  · obtain ⟨_, _, ended⟩ := Outcome.bind_eq_ok.mp routed
    obtain ⟨_, rfl⟩ := Prod.mk.inj (Outcome.ok.inj ended)
    rfl

/-- Neither screen leads up or down to one on its left or right. -/
theorem horizontal_exit {legacy : CursorRouter}
    (sideways : legacy.direction = .left ∨ legacy.direction = .right) :
    ∀ edge ∈ legacy.exit, ¬ (edge = .top ∨ edge = .bottom) := by
  unfold CursorRouter.exit
  rcases sideways with toLeft | toRight
  · cases legacy.active <;> simp [toLeft, ScreenDirection.position, ActiveScreen.exit,
      placementEdges]
  · cases legacy.active <;> simp [toRight, ScreenDirection.position, ActiveScreen.exit,
      placementEdges]

/-- Every run to the left or to the right avoids corners. -/
theorem avoidsCorners_of_sideways {legacy : CursorRouter} {router : TopologyRouter}
    {motions : List (Int × Int)}
    (sideways : legacy.direction = .left ∨ legacy.direction = .right) :
    Machine.Along routeBoth AvoidsCorners (legacy, router) motions := by
  induction motions generalizing legacy router with
  | nil => trivial
  | cons motion motions induction =>
      refine ⟨fun edge exits corner => horizontal_exit sideways edge exits corner.1,
        fun outputs next stepped => ?_⟩
      simp only [routeBoth, Outcome.bind_eq_ok, Outcome.pure_eq, Outcome.ok.injEq,
        Prod.mk.injEq] at stepped
      obtain ⟨⟨route, nextLegacy⟩, routed, _, _, _, rfl⟩ := stepped
      exact induction (CursorRouter.routeMotion_direction routed ▸ sideways)

/-- From every start, the two-screen router of a direction and the router over the topology that the
direction migrates to take every run of motions that avoids corners by corresponding routes. -/
theorem migrated_routers_agree {layout migrated : ScreenLayout} {inventory : ScreenInventory}
    {home away : ScreenDescriptor} {direction : ScreenDirection} {topology : ScreenTopology}
    (unlinked : layout.links = []) (two : TwoScreens inventory home away)
    (homePositive : (layout.resolveScreen home).effectiveSize.Positive)
    (awayPositive : (layout.resolveScreen away).effectiveSize.Positive)
    (migrates : migrateLegacyDirection layout inventory direction = .ok migrated)
    (resolves : migrated.resolve inventory = .ok topology) (x y : Int)
    (motions : List (Int × Int)) :
    ∃ legacy router,
      (CursorRouter.new (layout.resolveScreen home).effectiveSize
        (layout.resolveScreen away).effectiveSize direction).setLocalPosition x y = .ok legacy ∧
      TopologyRouter.new topology home.screenId x y = .ok router ∧
      (Machine.Along routeBoth AvoidsCorners (legacy, router) motions →
        ∃ routes final, Machine.run routeBoth (legacy, router) motions = .ok (routes, final) ∧
          ∀ route ∈ routes, route.2 = route.1.over home.screenId away.screenId) := by
  obtain ⟨position, joined⟩ :=
    migrated_of_migrateLegacyDirection unlinked two homePositive awayPositive migrates resolves
  obtain ⟨legacy, router, placed, built, same⟩ :=
    start_samePlace joined (ScreenLayout.WellFormed.resolved resolves) x y
  exact ⟨legacy, router, placed, built, run_samePlace joined same⟩

/-- Pushed up in the upper left corner, the cursor of the two-screen router enters the screen above,
and that of the topology router stays. -/
theorem migrated_routers_differ_at_corner :
    ∃ migrated topology legacy router routes final,
      TwoScreens sampleInventory (sampleDescriptor "local" "host" true)
        (sampleDescriptor "remote" "peer" false) ∧
      migrateLegacyDirection default sampleInventory .top = .ok migrated ∧
      migrated.resolve sampleInventory = .ok topology ∧
      (CursorRouter.new { width := 100, height := 100 } { width := 100, height := 100 }
        .top).setLocalPosition 0 0 = .ok legacy ∧
      TopologyRouter.new topology ⟨"local"⟩ 0 0 = .ok router ∧
      Machine.run routeBoth (legacy, router) [(-1, -8)] = .ok (routes, final) ∧
      routes = [(.enterRemote 0 98, .stay ⟨"local"⟩ (-1) (-8))] ∧
      ¬ ∀ route ∈ routes, route.2 = route.1.over ⟨"local"⟩ ⟨"remote"⟩ :=
  ⟨_, _, _, _, _, _, ⟨Or.inl rfl, rfl, rfl, rfl, rfl⟩, rfl, rfl, rfl, rfl, rfl, rfl, by decide⟩

theorem migrated_routers_agree_rightwards :
    ∃ migrated topology legacy router routes final,
      migrateLegacyDirection default sampleInventory .right = .ok migrated ∧
      migrated.resolve sampleInventory = .ok topology ∧
      (CursorRouter.new { width := 100, height := 100 } { width := 100, height := 100 }
        .right).setLocalPosition 40 30 = .ok legacy ∧
      TopologyRouter.new topology ⟨"local"⟩ 40 30 = .ok router ∧
      Machine.run routeBoth (legacy, router) [(200, -40), (5, -5), (3, 4)] = .ok (routes, final) ∧
      ∀ route ∈ routes, route.2 = route.1.over ⟨"local"⟩ ⟨"remote"⟩ := by
  obtain ⟨migrated, topology, migrates, resolves⟩ :
      ∃ migrated topology,
        migrateLegacyDirection default sampleInventory .right = .ok migrated ∧
        migrated.resolve sampleInventory = .ok topology := ⟨_, _, rfl, rfl⟩
  obtain ⟨legacy, router, placed, built, agrees⟩ :=
    migrated_routers_agree (by rfl : (default : ScreenLayout).links = [])
      (⟨Or.inl rfl, rfl, rfl, rfl, rfl⟩ : TwoScreens sampleInventory
        (sampleDescriptor "local" "host" true) (sampleDescriptor "remote" "peer" false))
      (by decide) (by decide) migrates resolves 40 30 [(200, -40), (5, -5), (3, 4)]
  have direction : legacy.direction = .right := by
    obtain rfl := Outcome.ok.inj placed
    rfl
  obtain ⟨routes, final, ran, corresponds⟩ := agrees (avoidsCorners_of_sideways (Or.inr direction))
  exact ⟨migrated, topology, legacy, router, routes, final, migrates, resolves, placed, built, ran,
    corresponds⟩

end Rflow
