import Rflow.Core.SwitchDelay
import Rflow.Foundation.HoldTimer

/-!
# Sustained pressure on a linked edge

A cursor that is pushed against a linked border again and again crosses it once the barrier has
timed the border for the switch delay.  A motion that also pushes out of the side of the screen
stops the clock of the top or bottom border, because the router looks at the sides first and finds
no link there.
-/

namespace Rflow

open Foundation HoldTimer

/-- A motion with its time. -/
structure TimedMotion where
  dx : Int
  dy : Int
  timestampMicros : Nat
  deriving DecidableEq, Repr

/-- The call that routes a motion with its time. -/
def TimedMotion.call (motion : TimedMotion) : RouterCommand :=
  .routeMotionAt motion.dx motion.dy motion.timestampMicros

namespace EdgeBarrier

variable {barrier : EdgeBarrier Edge} {edge : Edge} {timestampMicros : Nat}

/-- Since when the barrier times an edge. -/
def clock (barrier : EdgeBarrier Edge) (edge : Edge) : Option Nat :=
  if barrier.edge = some edge then barrier.sinceMicros else none

@[simp]
theorem clock_reset : (reset : EdgeBarrier Edge).clock edge = none := rfl

theorem waitElapsed_of_timed (timed : barrier.edge = some edge) :
    barrier.waitElapsed edge timestampMicros =
      if edgeSwitchDelayMicros ≤
          timestampMicros - barrier.sinceMicros.getD timestampMicros then
        (true, reset)
      else
        (false, { barrier with sinceMicros := some (barrier.sinceMicros.getD timestampMicros) }) :=
  if_neg (not_not.mpr timed)

theorem waitElapsed_of_untimed (untimed : barrier.edge ≠ some edge) :
    barrier.waitElapsed edge timestampMicros =
      (false, { edge := some edge, distance := 0, sinceMicros := some timestampMicros }) :=
  if_pos untimed

/-- The barrier gives way to a time that is the delay after the clock of the edge started. -/
theorem waitElapsed_fst :
    (barrier.waitElapsed edge timestampMicros).1 = true ↔
      (barrier.clock edge).getD timestampMicros + edgeSwitchDelayMicros ≤ timestampMicros := by
  by_cases timed : barrier.edge = some edge
  · rw [waitElapsed_of_timed timed, clock, if_pos timed]
    unfold edgeSwitchDelayMicros
    split_ifs with elapsed
    · simp only [true_iff]
      omega
    · simp only [false_iff]
      omega
  · rw [waitElapsed_of_untimed timed, clock, if_neg timed]
    simp [edgeSwitchDelayMicros]

/-- A barrier that holds keeps the clock of the edge running. -/
theorem clock_waitElapsed (held : (barrier.waitElapsed edge timestampMicros).1 = false) :
    (barrier.waitElapsed edge timestampMicros).2.clock edge =
      some ((barrier.clock edge).getD timestampMicros) := by
  by_cases timed : barrier.edge = some edge
  · rw [waitElapsed_of_timed timed] at held ⊢
    split_ifs at held ⊢
    rw [clock, clock, if_pos timed, if_pos timed]
  · rw [waitElapsed_of_untimed timed, clock, clock, if_pos rfl, if_neg timed]
    rfl

end EdgeBarrier

namespace TopologyRouter

variable {router next : TopologyRouter} {node : ScreenNode} {size : ScreenSize}
  {edge other : Edge} {target : ScreenEdge} {x y dx dy : Int} {motion : TimedMotion}
  {motions : List TimedMotion}

/-! ## Motions against an edge -/

/-- A motion pushes out of an edge, and out of no other edge that leads to an online screen. -/
structure Presses (router : TopologyRouter) (edge : Edge) (motion : TimedMotion) : Prop where
  outward : Outward motion.dx motion.dy edge
  alone : ∀ other, other ≠ edge → Outward motion.dx motion.dy other →
    router.linkedEdge other = none

/-- A motion against the top or bottom that also pushes out of the side that the cursor is on. -/
def Diverts (size : ScreenSize) (x : Int) (motion : TimedMotion) : Edge → Prop
  | .left | .right => False
  | .top | .bottom => (x = 0 ∧ motion.dx < 0) ∨ (x = size.width - 1 ∧ 0 < motion.dx)

instance (size : ScreenSize) (x : Int) (motion : TimedMotion) (edge : Edge) :
    Decidable (Diverts size x motion edge) := by
  cases edge <;> simp only [Diverts] <;> infer_instance

/-- Where a motion that stays on the screen leaves the cursor across. -/
def drift (size : ScreenSize) (x : Int) (motion : TimedMotion) : Int :=
  max 0 (min (size.width - 1) (saturatingAdd x motion.dx))

/-- What motions against an edge mean to the clock of that edge while the cursor stays. -/
def beats (size : ScreenSize) (edge : Edge) : Int → List TimedMotion → List Beat
  | _, [] => []
  | x, motion :: motions =>
      { time := motion.timestampMicros, disturbs := decide (Diverts size x motion edge) } ::
        beats size edge (drift size x motion) motions

theorem map_time_beats (size : ScreenSize) (edge : Edge) (x : Int) (motions : List TimedMotion) :
    (beats size edge x motions).map Beat.time = motions.map TimedMotion.timestampMicros := by
  induction motions generalizing x with
  | nil => rfl
  | cons motion motions induction =>
      rw [beats, List.map_cons, List.map_cons, induction]

/-- One of the motions crosses from the active screen over an edge to its target. -/
def CrossesThrough (router : TopologyRouter) (motions : List TimedMotion) (edge : Edge)
    (target : ScreenEdge) : Prop :=
  ∃ front motion back routes reached next x y,
    motions = front ++ motion :: back ∧
    Machine.run command router (front.map TimedMotion.call) = .ok (routes, reached) ∧
    reached.active = router.active ∧ reached.PushesOver motion.dx motion.dy edge ∧
    reached.routeMotionAt motion.dx motion.dy motion.timestampMicros =
      .ok (.cross target.screenId x y, next)

/-! ## The border that is taken -/

/-- The border that is taken is the one pushed out of, unless the motion leaves by a side. -/
theorem crossedEdge_of_straight (positive : size.Positive)
    (border : OnBorder size x y edge) (outward : Outward motion.dx motion.dy edge)
    (straight : ¬ Diverts size x motion edge) :
    crossedEdge size x y motion.dx motion.dy = .ok (some edge) := by
  refine crossedEdge_of_outward positive border outward fun vertical => ?_
  obtain rfl | rfl := vertical
  · exact not_or.mp straight
  · exact not_or.mp straight

/-- A motion that diverts is taken to push out of a side, and to reach that side. -/
theorem crossedEdge_of_diverts (positive : size.Positive) (fits : size.Fits)
    (diverts : Diverts size x motion edge) :
    ∃ side, side ≠ edge ∧ Outward motion.dx motion.dy side ∧
      crossedEdge size x y motion.dx motion.dy = .ok (some side) ∧
      reachedEdge size (saturatingAdd x motion.dx) (saturatingAdd y motion.dy) motion.dx
        motion.dy = .ok (some side) := by
  obtain ⟨vertical, side⟩ : (edge = .top ∨ edge = .bottom) ∧
      ((x = 0 ∧ motion.dx < 0) ∨ (x = size.width - 1 ∧ 0 < motion.dx)) := by
    cases edge with
    | left => exact diverts.elim
    | right => exact diverts.elim
    | top => exact ⟨Or.inl rfl, diverts⟩
    | bottom => exact ⟨Or.inr rfl, diverts⟩
  obtain ⟨border, outward⟩ | ⟨border, outward⟩ := side
  · refine ⟨.left, by rintro rfl; simp at vertical, outward, crossedEdge_eq_left border outward, ?_⟩
    have reached : saturatingAdd x motion.dx ≤ 0 := by
      unfold saturatingAdd saturate i32Min i32Max
      omega
    rw [reachedEdge, if_pos ⟨reached, outward⟩]
    rfl
  · refine ⟨.right, by rintro rfl; simp at vertical, outward,
      crossedEdge_eq_right positive border outward, ?_⟩
    have reached : size.width - 1 ≤ saturatingAdd x motion.dx := by
      have width := fits.1
      unfold i32Max at width
      unfold saturatingAdd saturate i32Min i32Max
      omega
    have inward : ¬ (saturatingAdd x motion.dx ≤ 0 ∧ motion.dx < 0) := by omega
    rw [reachedEdge, if_neg inward, checkedPred_of_pos positive.1, Outcome.ok_bind,
      if_pos ⟨reached, outward⟩]
    rfl

/-! ## One motion -/

/-- The cursor is on a border whose edge leads to an online screen, in a topology whose screens have
pixels and `i32` extents. -/
structure Pressing (router : TopologyRouter) (node : ScreenNode) (edge : Edge)
    (target : ScreenEdge) : Prop where
  sized : router.topology.Sized
  fits : router.topology.Fits
  found : router.topology.find router.active = some node
  border : OnBorder node.effectiveSize router.x router.y edge
  linked : router.linkedEdge edge = some target

/-- A motion has kept the cursor on its screen and on the border. -/
structure Kept (router : TopologyRouter) (node : ScreenNode) (edge : Edge) (motion : TimedMotion)
    (next : TopologyRouter) : Prop where
  topology : next.topology = router.topology
  active : next.active = router.active
  across : next.x = drift node.effectiveSize router.x motion
  border : OnBorder node.effectiveSize next.x next.y edge

/-- Edges lead to the same screens while the topology and the active screen are the same. -/
theorem linkedEdge_congr (topology : next.topology = router.topology)
    (active : next.active = router.active) (edge : Edge) :
    next.linkedEdge edge = router.linkedEdge edge := by
  unfold linkedEdge isOnline
  rw [topology, active]

theorem Presses.kept (presses : router.Presses edge motion) {earlier : TimedMotion}
    (kept : router.Kept node edge earlier next) : next.Presses edge motion :=
  ⟨presses.outward, fun other different outward =>
    (linkedEdge_congr kept.topology kept.active other).trans
      (presses.alone other different outward)⟩

namespace Pressing

theorem positive (pressing : router.Pressing node edge target) : node.effectiveSize.Positive :=
  pressing.sized.of_find pressing.found

theorem size_fits (pressing : router.Pressing node edge target) : node.effectiveSize.Fits :=
  pressing.fits node (ScreenTopology.find_mem pressing.found)

theorem kept (pressing : router.Pressing node edge target)
    (kept : router.Kept node edge motion next) : next.Pressing node edge target where
  sized := kept.topology ▸ pressing.sized
  fits := kept.topology ▸ pressing.fits
  found := kept.topology ▸ kept.active ▸ pressing.found
  border := kept.border
  linked := (linkedEdge_congr kept.topology kept.active edge).trans pressing.linked

/-- A cursor that stays is kept on the border by a motion out of it. -/
theorem settle (pressing : router.Pressing node edge target)
    (outward : Outward motion.dx motion.dy edge) (barrier : EdgeBarrier Edge) :
    ∃ next, { router with barrier }.settle node.effectiveSize (saturatingAdd router.x motion.dx)
        (saturatingAdd router.y motion.dy) motion.dx motion.dy =
          .ok (.stay router.active motion.dx motion.dy, next) ∧
      router.Kept node edge motion next ∧ next.barrier = barrier := by
  obtain ⟨point, clamped⟩ : (clampInto node.effectiveSize (saturatingAdd router.x motion.dx)
      (saturatingAdd router.y motion.dy)).IsOk := clampInto_isOk.mpr pressing.positive
  have border := onBorder_of_outward pressing.size_fits pressing.border outward clamped
  obtain ⟨-, rfl⟩ := clampInto_eq_ok clamped
  refine ⟨{ router with
      x := drift node.effectiveSize router.x motion
      y := max 0 (min (node.effectiveSize.height - 1) (saturatingAdd router.y motion.dy))
      barrier }, ?_, ⟨rfl, rfl, rfl, border⟩, rfl⟩
  rw [TopologyRouter.settle, clamped]
  rfl

/-- A motion that diverts keeps the cursor and puts the barrier to rest. -/
theorem routeMotionAt_of_diverts (pressing : router.Pressing node edge target)
    (presses : router.Presses edge motion)
    (diverts : Diverts node.effectiveSize router.x motion edge) :
    ∃ next, router.routeMotionAt motion.dx motion.dy motion.timestampMicros =
        .ok (.stay router.active motion.dx motion.dy, next) ∧
      router.Kept node edge motion next ∧ next.barrier = .reset := by
  obtain ⟨side, different, outward, crossed, reached⟩ :=
    crossedEdge_of_diverts pressing.positive pressing.size_fits diverts (y := router.y)
  have unlinked := presses.alone side different outward
  obtain ⟨next, settled, kept, rested⟩ := pressing.settle presses.outward .reset
  refine ⟨next, ?_, kept, rested⟩
  rw [routeMotionAt, routeMotionInner, screenSize_eq_ok.mpr ⟨node, pressing.found, rfl⟩,
    Outcome.ok_bind, crossed, Outcome.ok_bind, Option.bind_some, unlinked, Option.map_none]
  simp only [moveInside]
  rw [reached, Outcome.ok_bind]
  simpa [unlinked] using settled

/-- A motion that does not divert presses the edge. -/
theorem routeMotionAt_of_straight (pressing : router.Pressing node edge target)
    (presses : router.Presses edge motion)
    (straight : ¬ Diverts node.effectiveSize router.x motion edge) :
    router.routeMotionAt motion.dx motion.dy motion.timestampMicros =
      router.pressEdge node.effectiveSize edge target (saturatingAdd router.x motion.dx)
        (saturatingAdd router.y motion.dy) motion.dx motion.dy (some motion.timestampMicros) := by
  have crossed :=
    crossedEdge_of_straight pressing.positive pressing.border presses.outward straight
  rw [routeMotionAt, routeMotionInner, screenSize_eq_ok.mpr ⟨node, pressing.found, rfl⟩,
    Outcome.ok_bind, crossed, Outcome.ok_bind, Option.bind_some, pressing.linked, Option.map_some]

/-- While the barrier holds, a motion keeps the cursor and the clock of the edge running. -/
theorem routeMotionAt_of_held (pressing : router.Pressing node edge target)
    (presses : router.Presses edge motion)
    (straight : ¬ Diverts node.effectiveSize router.x motion edge)
    (held : (router.barrier.waitElapsed edge motion.timestampMicros).1 = false) :
    ∃ next, router.routeMotionAt motion.dx motion.dy motion.timestampMicros =
        .ok (.stay router.active motion.dx motion.dy, next) ∧
      router.Kept node edge motion next ∧
      next.barrier.clock edge =
        some ((router.barrier.clock edge).getD motion.timestampMicros) := by
  obtain ⟨next, settled, kept, timed⟩ := pressing.settle presses.outward
    (router.barrier.waitElapsed edge motion.timestampMicros).2
  refine ⟨next, ?_, kept, timed ▸ EdgeBarrier.clock_waitElapsed held⟩
  rw [pressing.routeMotionAt_of_straight presses straight]
  simp only [pressEdge, pressBarrier, held]
  exact settled

/-- Once the barrier gives way, a motion crosses to the target of the edge. -/
theorem routeMotionAt_of_given (pressing : router.Pressing node edge target)
    (presses : router.Presses edge motion)
    (straight : ¬ Diverts node.effectiveSize router.x motion edge)
    (given : (router.barrier.waitElapsed edge motion.timestampMicros).1 = true) :
    ∃ next x y, router.routeMotionAt motion.dx motion.dy motion.timestampMicros =
        .ok (.cross target.screenId x y, next) ∧
      router.PushesOver motion.dx motion.dy edge := by
  have crossed :=
    crossedEdge_of_straight pressing.positive pressing.border presses.outward straight
  obtain ⟨targetNode, targetFound⟩ :=
    Option.isSome_iff_exists.mp (isSome_find_of_linkedEdge pressing.linked)
  obtain ⟨⟨x, y⟩, entered⟩ : (entryPoint edge node.effectiveSize targetNode.effectiveSize
      (saturatingAdd router.x motion.dx) (saturatingAdd router.y motion.dy)).IsOk :=
    entryPoint_isOk pressing.positive (pressing.sized.of_find targetFound)
  have pushes : router.PushesOver motion.dx motion.dy edge :=
    ⟨node, target, pressing.found, crossed, pressing.linked⟩
  refine ⟨{ router with
      active := target.screenId, x, y
      barrier := (router.barrier.waitElapsed edge motion.timestampMicros).2 },
    x, y, ?_, pushes⟩
  rw [pressing.routeMotionAt_of_straight presses straight]
  have targetSize :
      { router with
        barrier := (router.barrier.waitElapsed edge motion.timestampMicros).2 }.screenSize
          target.screenId = .ok targetNode.effectiveSize :=
    screenSize_eq_ok.mpr ⟨targetNode, targetFound, rfl⟩
  simp only [pressEdge, pressBarrier, given, if_true]
  rw [targetSize, Outcome.ok_bind, entered]
  rfl

end Pressing

/-! ## Sequences of motions -/

/-- A motion that crosses is enough. -/
theorem crossesThrough_of_cross
    (pushes : router.PushesOver motion.dx motion.dy edge)
    (routed : router.routeMotionAt motion.dx motion.dy motion.timestampMicros =
      .ok (.cross target.screenId x y, next)) :
    router.CrossesThrough (motion :: motions) edge target :=
  ⟨[], motion, motions, [], router, next, x, y, rfl, rfl, rfl, pushes, routed⟩

/-- After a motion that keeps the cursor on its screen the other motions decide. -/
theorem crossesThrough_cons_of_stay {route : TopologyRoute} (active : next.active = router.active)
    (stays : route = .stay router.active motion.dx motion.dy)
    (routed : router.routeMotionAt motion.dx motion.dy motion.timestampMicros = .ok (route, next)) :
    router.CrossesThrough (motion :: motions) edge target ↔
      next.CrossesThrough motions edge target := by
  have commanded : router.command motion.call = .ok ([route], next) := by
    simp only [command, TimedMotion.call, routed]
    rfl
  constructor
  · rintro ⟨front, last, back, routes, reached, after, x, y, split, ran, same, pushes, crosses⟩
    cases front with
    | nil =>
        obtain ⟨rfl, rfl⟩ := List.cons.inj split
        obtain ⟨rfl, rfl⟩ : [] = routes ∧ router = reached := by simpa using ran
        cases stays.symm.trans (Prod.mk.inj (Outcome.ok.inj (routed.symm.trans crosses))).1
    | cons _ front =>
        obtain ⟨rfl, rfl⟩ := List.cons.inj split
        obtain ⟨first, middle, rest, stepped, remaining, rfl⟩ := Machine.run_cons_eq_ok.mp ran
        obtain ⟨rfl, rfl⟩ := Prod.mk.inj (Outcome.ok.inj (commanded.symm.trans stepped))
        exact ⟨front, last, back, rest, reached, after, x, y, rfl, remaining,
          same.trans active.symm, pushes, crosses⟩
  · rintro ⟨front, last, back, routes, reached, after, x, y, rfl, ran, same, pushes, crosses⟩
    exact ⟨motion :: front, last, back, [route] ++ routes, reached, after, x, y, rfl,
      Machine.run_cons_eq_ok.mpr ⟨[route], next, routes, commanded, ran, rfl⟩,
      same.trans active, pushes, crosses⟩

/-- Motions against a linked edge cross it exactly when the clock of the edge fires. -/
theorem crossesThrough_iff_fires (pressing : router.Pressing node edge target)
    (presses : ∀ motion ∈ motions, router.Presses edge motion) :
    router.CrossesThrough motions edge target ↔
      Fires edgeSwitchDelayMicros (router.barrier.clock edge)
        (beats node.effectiveSize edge router.x motions) := by
  induction motions generalizing router with
  | nil => simp [CrossesThrough, beats, Fires]
  | cons motion motions induction =>
      obtain ⟨press, remaining⟩ := List.forall_mem_cons.mp presses
      rw [beats, Fires]
      by_cases diverts : Diverts node.effectiveSize router.x motion edge
      · obtain ⟨next, routed, kept, rested⟩ := pressing.routeMotionAt_of_diverts press diverts
        rw [if_pos (decide_eq_true diverts), crossesThrough_cons_of_stay kept.active rfl routed,
          induction (pressing.kept kept) fun other member => (remaining other member).kept kept,
          rested, EdgeBarrier.clock_reset, kept.across]
      · rw [if_neg (by simpa using diverts), ← EdgeBarrier.waitElapsed_fst]
        cases given : (router.barrier.waitElapsed edge motion.timestampMicros).1
        · obtain ⟨next, routed, kept, running⟩ :=
            pressing.routeMotionAt_of_held press diverts given
          rw [crossesThrough_cons_of_stay kept.active rfl routed,
            induction (pressing.kept kept) fun other member => (remaining other member).kept kept,
            running, kept.across]
          simp
        · obtain ⟨next, x, y, routed, pushes⟩ :=
            pressing.routeMotionAt_of_given press diverts given
          simp [crossesThrough_of_cross pushes routed]

/-- Motions that all push straight cross once they last for the switch delay. -/
theorem crossesThrough_of_straight {first last : TimedMotion}
    (pressing : router.Pressing node edge target)
    (presses : ∀ motion ∈ first :: motions, router.Presses edge motion)
    (ends : (first :: motions).getLast? = some last)
    (span : first.timestampMicros + edgeSwitchDelayMicros ≤ last.timestampMicros)
    (straight : ∀ beat ∈ beats node.effectiveSize edge router.x (first :: motions),
      beat.disturbs = false)
    (early : ∀ since ∈ router.barrier.clock edge, since ≤ first.timestampMicros) :
    router.CrossesThrough (first :: motions) edge target := by
  rw [crossesThrough_iff_fires pressing presses, fires_iff_held]
  obtain ⟨final, finish, time⟩ : ∃ final,
      (beats node.effectiveSize edge router.x (first :: motions)).getLast? = some final ∧
        final.time = last.timestampMicros := by
    have times := congrArg List.getLast?
      (map_time_beats node.effectiveSize edge router.x (first :: motions))
    rw [List.getLast?_map, List.getLast?_map, ends, Option.map_some] at times
    exact Option.map_eq_some_iff.mp times
  exact Held.of_calm straight finish (by rw [time]; exact span) early

/-- Sustained pressure on a linked edge crosses it exactly when a stretch of the motions, none of
which diverts, lasts for the switch delay; a stretch at the beginning counts from where the barrier
already times the edge.  Motions that all push straight are such a stretch. -/
theorem pressure_crosses_iff {first last : TimedMotion} (sized : router.topology.Sized)
    (fits : router.topology.Fits) (found : router.topology.find router.active = some node)
    (border : OnBorder node.effectiveSize router.x router.y edge)
    (linked : router.linkedEdge edge = some target)
    (presses : ∀ motion ∈ first :: motions, router.Presses edge motion)
    (ends : (first :: motions).getLast? = some last)
    (span : first.timestampMicros + edgeSwitchDelayMicros ≤ last.timestampMicros) :
    (router.CrossesThrough (first :: motions) edge target ↔
      Held edgeSwitchDelayMicros (router.barrier.clock edge)
        (beats node.effectiveSize edge router.x (first :: motions))) ∧
      ((∀ beat ∈ beats node.effectiveSize edge router.x (first :: motions),
          beat.disturbs = false) →
        (∀ since ∈ router.barrier.clock edge, since ≤ first.timestampMicros) →
        router.CrossesThrough (first :: motions) edge target) := by
  have pressing : router.Pressing node edge target := ⟨sized, fits, found, border, linked⟩
  refine ⟨?_, crossesThrough_of_straight pressing presses ends span⟩
  rw [crossesThrough_iff_fires pressing presses, fires_iff_held]

end TopologyRouter

/-- A screen above the local screen. -/
def sampleTower : ScreenTopology where
  revision := 0
  screens := [sampleNode "local" "host" true true, sampleNode "upper" "peer" true false]
  links := [{ fromEdge := { screenId := ⟨"local"⟩, edge := .top }
              toEdge := { screenId := ⟨"upper"⟩, edge := .bottom } }]

namespace TopologyRouter

/-- The cursor at the upper left corner of the local screen. -/
def sampleCorner : TopologyRouter where
  topology := sampleTower
  active := ⟨"local"⟩
  x := 0
  y := 0
  barrier := .reset

theorem sampleCorner_presses {dx : Int} (leftwards : dx ≤ 0) (timestampMicros : Nat) :
    sampleCorner.Presses .top { dx, dy := -1, timestampMicros } := by
  refine ⟨by simp [Outward], fun other different outward => ?_⟩
  cases other with
  | left => rfl
  | right => exact absurd leftwards (Int.not_le.mpr outward)
  | top => exact absurd rfl different
  | bottom => simp [Outward] at outward

theorem sampleTower_fits : sampleTower.Fits := by
  simp [ScreenTopology.Fits, ScreenSize.Fits, sampleTower, sampleNode, ScreenNode.effectiveSize,
    i32Max]

theorem pressure_crosses_upwards :
    sampleCorner.CrossesThrough
      [⟨0, -1, 1000⟩, ⟨0, -1, 100000⟩, ⟨0, -1, 251000⟩] .top ⟨⟨"upper"⟩, .bottom⟩ := by
  have presses : ∀ motion ∈ [⟨0, -1, 1000⟩, ⟨0, -1, 100000⟩, ⟨0, -1, 251000⟩],
      sampleCorner.Presses .top motion := by
    simp [sampleCorner_presses]
  have border : OnBorder (sampleNode "local" "host" true true).effectiveSize sampleCorner.x
    sampleCorner.y .top := rfl
  have linked : sampleCorner.linkedEdge .top = some ⟨⟨"upper"⟩, .bottom⟩ := rfl
  obtain ⟨-, straight⟩ := pressure_crosses_iff (by decide) sampleTower_fits rfl border linked
    presses rfl (by decide)
  exact straight (by decide) (by decide)

/-- Pushed diagonally into the corner, the cursor does not cross the top. -/
theorem corner_pressure_stays :
    ∃ final,
      new sampleTower ⟨"local"⟩ 0 0 = .ok sampleCorner ∧ sampleTower.Sized ∧ sampleTower.Fits ∧
        sampleCorner.AtBorder .top ∧ sampleCorner.linkedEdge .top = some ⟨⟨"upper"⟩, .bottom⟩ ∧
        (∀ motion ∈ [⟨-1, -1, 0⟩, ⟨-1, -1, 250000⟩], sampleCorner.Presses .top motion) ∧
        Machine.run command sampleCorner
          ([⟨-1, -1, 0⟩, ⟨-1, -1, 250000⟩].map TimedMotion.call) =
            .ok ([.stay ⟨"local"⟩ (-1) (-1), .stay ⟨"local"⟩ (-1) (-1)], final) ∧
        ¬ sampleCorner.CrossesThrough [⟨-1, -1, 0⟩, ⟨-1, -1, 250000⟩] .top
          ⟨⟨"upper"⟩, .bottom⟩ := by
  have presses : ∀ motion ∈ [⟨-1, -1, 0⟩, ⟨-1, -1, 250000⟩],
      sampleCorner.Presses .top motion := by
    simp [sampleCorner_presses]
  have pressing : sampleCorner.Pressing (sampleNode "local" "host" true true) .top
      ⟨⟨"upper"⟩, .bottom⟩ := ⟨by decide, sampleTower_fits, rfl, rfl, rfl⟩
  refine ⟨_, rfl, by decide, sampleTower_fits, ⟨_, rfl, rfl⟩, rfl, presses, rfl, ?_⟩
  rw [crossesThrough_iff_fires pressing presses]
  decide

end TopologyRouter
end Rflow
