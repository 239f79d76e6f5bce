import Rflow.Core.SwitchDelay
import Rflow.Foundation.Rescaling

/-!
# Round trips of the cursor

While the cursor is moved without a component along an edge, its coordinate along the edge changes
only where it crosses, and there by rescaling.  Round trips between two screens therefore never
raise the coordinate and never take it below the nearest multiple of the grain of the two extents.
-/

namespace Rflow

open Foundation Rescaling

/-- The screens that routes cross to, in order. -/
def crossings (routes : List TopologyRoute) : List ScreenId :=
  routes.filterMap fun route =>
    match route with
    | .cross target _ _ => some target
    | .stay .. => none

namespace TopologyRouter

/-- A call moves the cursor without a component along an edge. -/
def Straight (edge : Edge) (called : RouterCommand) : Prop :=
  ∃ dx dy timestampMicros, called.motion = some (dx, dy, timestampMicros) ∧ along edge dx dy = 0

/-- The coordinate of the cursor along an edge. -/
def coordinate (router : TopologyRouter) (edge : Edge) : Int := along edge router.x router.y

/-- The extent of a listed screen along an edge. -/
def extentOf (topology : ScreenTopology) (edge : Edge) (id : ScreenId) : Int :=
  ((topology.find id).map fun node => alongExtent edge node.effectiveSize).getD 0

variable {router next : TopologyRouter} {edge other : Edge} {size target : ScreenSize}
  {x y dx dy nextX nextY : Int} {timestampMicros : Option Nat} {route : TopologyRoute}

theorem extentOf_of_find {topology : ScreenTopology} {id : ScreenId} {node : ScreenNode}
    (found : topology.find id = some node) :
    extentOf topology edge id = alongExtent edge node.effectiveSize := by
  rw [extentOf, found]
  rfl

theorem alongExtent_fits (fits : size.Fits) : alongExtent edge size ≤ i32Max := by
  cases edge <;> simp only [alongExtent, along] <;> first | exact fits.1 | exact fits.2

/-! ## One motion -/

/-- Inside the extent that is left, the mapped coordinate is the rescaled one. -/
theorem scaleAxis_eq_rescale {value fromExtent toExtent result : Int} (nonneg : 0 ≤ value)
    (inside : value < fromExtent) (scaled : scaleAxis value fromExtent toExtent = .ok result) :
    result = rescale fromExtent toExtent value := by
  have leaving : 0 < fromExtent := lt_of_le_of_lt nonneg inside
  rw [scaleAxis, if_neg leaving.ne'] at scaled
  simp only [Outcome.bind_eq_ok, checkedPred_eq_ok, clamp_eq_ok] at scaled
  obtain ⟨_, ⟨_, rfl⟩, last, rfl⟩ := scaled
  have entering : 0 < toExtent := by omega
  have lower := rescale_nonneg leaving entering.le nonneg
  have upper := rescale_lt leaving entering inside
  rw [Int.tdiv_eq_ediv_of_nonneg (mul_nonneg nonneg entering.le), ← rescale]
  omega

theorem saturatingAdd_zero {value : Int} (nonneg : 0 ≤ value) (fits : value ≤ i32Max) :
    saturatingAdd value 0 = value := by
  unfold saturatingAdd saturate i32Min
  unfold i32Max at *
  omega

/-- A motion without a component along an edge keeps the coordinate along it. -/
theorem along_saturatingAdd (straight : along edge dx dy = 0) (nonneg : 0 ≤ along edge x y)
    (fits : along edge x y ≤ i32Max) :
    along edge (saturatingAdd x dx) (saturatingAdd y dy) = along edge x y := by
  cases edge <;> simp only [along] at * <;> rw [straight] <;> exact saturatingAdd_zero nonneg fits

theorem along_clampInto (clamped : clampInto size nextX nextY = .ok (x, y))
    (nonneg : 0 ≤ along edge nextX nextY)
    (inside : along edge nextX nextY < alongExtent edge size) :
    along edge x y = along edge nextX nextY := by
  obtain ⟨_, point⟩ := clampInto_eq_ok clamped
  obtain ⟨rfl, rfl⟩ := Prod.mk.inj point
  cases edge <;> simp only [along, alongExtent] at * <;> omega

/-- A motion without a component along an edge pushes only out of edges that are parallel to it. -/
theorem along_of_outward (straight : along edge dx dy = 0) (outward : Outward dx dy other) :
    along other = along edge := by
  cases edge <;> cases other <;> simp_all [along, Outward] <;> rfl

/-- A crossing out of a parallel edge rescales the coordinate. -/
theorem along_entryPoint (parallel : along other = along edge)
    (entered : entryPoint other size target nextX nextY = .ok (x, y))
    (nonneg : 0 ≤ along edge nextX nextY)
    (inside : along edge nextX nextY < alongExtent edge size) :
    (0 ≤ along edge x y ∧ along edge x y < alongExtent edge target) ∧ along edge x y =
      rescale (alongExtent edge size) (alongExtent edge target) (along edge nextX nextY) := by
  have mapped := (entryPoint_entersAt entered).mapped
  simp only [alongExtent, parallel] at mapped inside ⊢
  have kept : max 0 (min (along edge size.width size.height - 1) (along edge nextX nextY)) =
      along edge nextX nextY := by omega
  rw [kept] at mapped
  exact ⟨scaleAxis_range mapped, scaleAxis_eq_rescale nonneg inside mapped⟩

/-! ## Whole runs -/

/-- Where a route leaves a cursor that is on a screen at some coordinate along an edge. -/
def carry (topology : ScreenTopology) (edge : Edge) (place : ScreenId × Int) :
    TopologyRoute → ScreenId × Int
  | .stay .. => place
  | .cross target _ _ =>
      (target, rescale (extentOf topology edge place.1) (extentOf topology edge target) place.2)

/-- The router runs on a topology, and its cursor is at a place on the active screen. -/
structure At (topology : ScreenTopology) (edge : Edge) (router : TopologyRouter)
    (place : ScreenId × Int) : Prop where
  runsOn : router.topology = topology
  onScreen : router.active = place.1
  atCoordinate : router.coordinate edge = place.2
  nonneg : 0 ≤ place.2
  inside : place.2 < extentOf topology edge place.1

theorem extentOf_le {topology : ScreenTopology} (fits : topology.Fits) (id : ScreenId) :
    extentOf topology edge id ≤ i32Max := by
  cases found : topology.find id with
  | none =>
      rw [extentOf, found]
      exact (by decide : (0 : Int) ≤ i32Max)
  | some node =>
      rw [extentOf_of_find found]
      exact alongExtent_fits (fits node (ScreenTopology.find_mem found))

/-- A motion without a component along the edge carries the cursor as its route says. -/
theorem At.routeMotionInner {topology : ScreenTopology} {place : ScreenId × Int}
    (placed : router.At topology edge place) (fits : topology.Fits)
    (straight : along edge dx dy = 0)
    (routed : router.routeMotionInner dx dy timestampMicros = .ok (route, next)) :
    next.At topology edge (carry topology edge place route) := by
  obtain ⟨rfl, onScreen, atCoordinate, nonneg, inside⟩ := placed
  obtain ⟨node, found, moves⟩ := routeMotionInner_moves routed
  have extent : extentOf router.topology edge place.1 = alongExtent edge node.effectiveSize :=
    extentOf_of_find (onScreen ▸ found)
  have moved : along edge (saturatingAdd router.x dx) (saturatingAdd router.y dy) = place.2 := by
    rw [← atCoordinate] at nonneg inside ⊢
    exact along_saturatingAdd straight nonneg (inside.le.trans (extentOf_le fits _))
  have room : along edge (saturatingAdd router.x dx) (saturatingAdd router.y dy) <
      alongExtent edge node.effectiveSize := by rwa [moved, ← extent]
  cases moves with
  | stay next sameTopology sameScreen _ clamped =>
      refine ⟨sameTopology, sameScreen.trans onScreen, ?_, nonneg, inside⟩
      exact (along_clampInto clamped (moved.symm ▸ nonneg) room).trans moved
  | cross side target targetNode next sameTopology arrives gives targetFound entered =>
      have parallel := along_of_outward straight (crossedEdge_eq_some gives.crossed).2
      obtain ⟨⟨lower, upper⟩, arrived⟩ :=
        along_entryPoint parallel entered (moved.symm ▸ nonneg) room
      rw [moved, ← extent, ← extentOf_of_find targetFound] at arrived
      rw [arrived] at lower upper
      exact ⟨sameTopology, arrives, arrived, lower, extentOf_of_find targetFound ▸ upper⟩

/-- So does a run of such motions. -/
theorem At.run {topology : ScreenTopology} {place : ScreenId × Int} {calls : List RouterCommand}
    {routes : List TopologyRoute} {final : TopologyRouter}
    (placed : router.At topology edge place) (fits : topology.Fits)
    (straight : ∀ called ∈ calls, Straight edge called)
    (ran : Machine.run command router calls = .ok (routes, final)) :
    final.At topology edge (routes.foldl (carry topology edge) place) := by
  have kept {state next : TopologyRouter} {called : RouterCommand} {routes : List TopologyRoute}
      {place : ScreenId × Int} (placed : state.At topology edge place)
      (straight : Straight edge called) (commanded : state.command called = .ok (routes, next)) :
      next.At topology edge (routes.foldl (carry topology edge) place) := by
    obtain ⟨dx, dy, timestampMicros, moves, noneAlong⟩ := straight
    rcases command_cases commanded with ⟨rfl, rfl⟩ | ⟨_, _, _, rfl, _⟩ | ⟨_, rfl, _⟩ |
      ⟨_, _, _, route, sameMoves, rfl, routed⟩
    · exact placed
    · cases moves
    · cases moves
    · obtain ⟨rfl, rfl, rfl⟩ : _ = dx ∧ _ = dy ∧ _ = timestampMicros := by
        simpa using sameMoves.symm.trans moves
      exact placed.routeMotionInner fits noneAlong routed
  exact Machine.run_folds kept placed straight ran

theorem foldl_carry {topology : ScreenTopology} {place : ScreenId × Int}
    {routes : List TopologyRoute} :
    routes.foldl (carry topology edge) place =
      (crossings routes).foldl (fun place target =>
        (target, rescale (extentOf topology edge place.1) (extentOf topology edge target)
          place.2)) place := by
  rw [crossings, List.foldl_filterMap]
  congr 1
  funext place route
  cases route <;> rfl

/-- Crossing over and back some times is as many round trips of the coordinate. -/
theorem foldl_roundTrips {topology : ScreenTopology} {home away : ScreenId} {trips : Nat}
    {routes : List TopologyRoute} {value : Int}
    (crosses : crossings routes = (List.replicate trips [away, home]).flatten) :
    routes.foldl (carry topology edge) (home, value) =
      (home, (roundTrip (extentOf topology edge home) (extentOf topology edge away))^[trips]
        value) := by
  rw [foldl_carry, crosses]
  clear crosses
  induction trips generalizing value with
  | zero => rfl
  | succ trips induction =>
      rw [List.replicate_succ, List.flatten_cons, List.foldl_append, Function.iterate_succ_apply]
      exact induction

/-- Over any edge of two screens, however often the cursor crosses over and back without a motion
along the edge, its coordinate along the edge does not rise, and stays above the multiple of the
grain of the two extents below it. -/
theorem round_trips_bounded {home away : ScreenNode} {final : TopologyRouter}
    {calls : List RouterCommand} {routes : List TopologyRoute} {trips : Nat}
    (fits : router.topology.Fits)
    (homeFound : router.topology.find router.active = some home)
    (awayFound : router.topology.find away.screenId = some away)
    (homeExtent : 0 < alongExtent edge home.effectiveSize)
    (awayExtent : 0 < alongExtent edge away.effectiveSize)
    (nonneg : 0 ≤ router.coordinate edge)
    (inside : router.coordinate edge < alongExtent edge home.effectiveSize)
    (straight : ∀ called ∈ calls, Straight edge called)
    (ran : Machine.run command router calls = .ok (routes, final))
    (crosses : crossings routes = (List.replicate trips [away.screenId, router.active]).flatten) :
    final.active = router.active ∧
      router.coordinate edge / grain (alongExtent edge home.effectiveSize)
          (alongExtent edge away.effectiveSize) *
        grain (alongExtent edge home.effectiveSize) (alongExtent edge away.effectiveSize) ≤
          final.coordinate edge ∧
      final.coordinate edge ≤ router.coordinate edge ∧
      (grain (alongExtent edge home.effectiveSize) (alongExtent edge away.effectiveSize) ∣
        router.coordinate edge → final.coordinate edge = router.coordinate edge) := by
  have start : router.At router.topology edge (router.active, router.coordinate edge) :=
    ⟨rfl, rfl, rfl, nonneg, by rwa [extentOf_of_find homeFound]⟩
  have arrived := start.run fits straight ran
  rw [foldl_roundTrips crosses, extentOf_of_find homeFound, extentOf_of_find awayFound] at arrived
  obtain ⟨lower, upper⟩ := iterate_roundTrip_bounds homeExtent awayExtent trips
  rw [arrived.atCoordinate]
  exact ⟨arrived.onScreen, lower, upper, fun divides =>
    iterate_roundTrip_of_dvd awayExtent divides trips⟩

end TopologyRouter

/-- A screen of 70 rows to the right of one of 100 rows. -/
def sampleUneven : ScreenTopology where
  revision := 0
  screens := [sampleNode "local" "host" true true,
    { sampleNode "remote" "peer" true false with logicalSize := { width := 100, height := 70 } }]
  links := [sampleLink "local" "remote"]

/-- The cursor at the right edge of the first screen. -/
def sampleUnevenAt (row : Int) : TopologyRouter where
  topology := sampleUneven
  active := ⟨"local"⟩
  x := 99
  y := row
  barrier := .reset

/-- Two round trips, each out of the right edge of the first screen and back. -/
def sampleRoundTrips : List RouterCommand :=
  [.routeMotion 8 0, .routeMotion (-1) 0, .routeMotion (-8) 0, .routeMotion 1 0,
    .routeMotion 8 0, .routeMotion (-1) 0, .routeMotion (-8) 0, .routeMotion 1 0]

namespace TopologyRouter

/-- From row 55 the cursor drifts to row 52, and could not drift below row 50. -/
theorem round_trips_bounded_uneven :
    ∃ routes, Machine.run command (sampleUnevenAt 55) sampleRoundTrips =
        .ok (routes, sampleUnevenAt 52) ∧
      50 ≤ (sampleUnevenAt 52).coordinate .right ∧ (sampleUnevenAt 52).coordinate .right ≤ 55 := by
  have across (dx : Int) : Straight .right (.routeMotion dx 0) := ⟨dx, 0, none, rfl, rfl⟩
  have straight : ∀ called ∈ sampleRoundTrips, Straight .right called := by
    simp [sampleRoundTrips, across]
  have fits : (sampleUnevenAt 55).topology.Fits := by
    simp [ScreenTopology.Fits, ScreenSize.Fits, sampleUnevenAt, sampleUneven, sampleNode,
      ScreenNode.effectiveSize, i32Max]
  have ran : Machine.run command (sampleUnevenAt 55) sampleRoundTrips =
      .ok ([.cross ⟨"remote"⟩ 1 38, .stay ⟨"remote"⟩ (-1) 0, .cross ⟨"local"⟩ 98 54,
        .stay ⟨"local"⟩ 1 0, .cross ⟨"remote"⟩ 1 37, .stay ⟨"remote"⟩ (-1) 0,
        .cross ⟨"local"⟩ 98 52, .stay ⟨"local"⟩ 1 0], sampleUnevenAt 52) := by decide
  obtain ⟨_, lower, upper, _⟩ := @round_trips_bounded (sampleUnevenAt 55) .right
    (sampleNode "local" "host" true true)
    { sampleNode "remote" "peer" true false with logicalSize := { width := 100, height := 70 } }
    _ _ _ 2 fits rfl rfl (by decide) (by decide) (by decide) (by decide) straight ran rfl
  exact ⟨_, ran, lower, upper⟩

end TopologyRouter
end Rflow
