import Rflow.Core.Validation

/-!
# Routing the cursor over a topology

The router holds the active screen and the cursor position on it.  A motion either stays on that
screen or, once the barrier of a linked edge has given way, crosses to the screen behind it.
-/

namespace Rflow

open Foundation

/-- Outward distance after which a barrier without a clock gives way. -/
def edgeBarrierDistance : Int := 8

/-- Time after which a barrier with a clock gives way. -/
def edgeSwitchDelayMicros : Nat := 250000

/-- Resistance of the edge that the cursor is pressed against. -/
structure EdgeBarrier (κ : Type) where
  edge : Option κ
  distance : Int
  sinceMicros : Option Nat
  deriving DecidableEq, Repr

namespace EdgeBarrier

variable {κ : Type} [DecidableEq κ]

def reset : EdgeBarrier κ := { edge := none, distance := 0, sinceMicros := none }

/-- Press against an edge by a distance; the flag tells whether the barrier gave way. -/
def push (barrier : EdgeBarrier κ) (edge : κ) (distance : Int) : Bool × EdgeBarrier κ :=
  let barrier :=
    if barrier.edge ≠ some edge then { barrier with edge := some edge, distance := 0 } else barrier
  let barrier := { barrier with distance := saturatingAdd barrier.distance (max distance 0) }
  if edgeBarrierDistance ≤ barrier.distance then (true, reset) else (false, barrier)

/-- Press against an edge at a time; the flag tells whether the barrier gave way. -/
def waitElapsed (barrier : EdgeBarrier κ) (edge : κ) (timestampMicros : Nat) :
    Bool × EdgeBarrier κ :=
  if barrier.edge ≠ some edge then
    (false, { edge := some edge, distance := 0, sinceMicros := some timestampMicros })
  else
    let since := barrier.sinceMicros.getD timestampMicros
    if edgeSwitchDelayMicros ≤ timestampMicros - since then
      (true, reset)
    else
      (false, { barrier with sinceMicros := some since })

/-- Start the clock of an edge that the cursor has just reached. -/
def startWait (barrier : EdgeBarrier κ) (edge : κ) (timestampMicros : Nat) : EdgeBarrier κ :=
  if barrier.edge ≠ some edge ∨ barrier.sinceMicros = none then
    { edge := some edge, distance := 0, sinceMicros := some timestampMicros }
  else
    barrier

end EdgeBarrier

inductive TopologyRoute where
  | stay (screenId : ScreenId) (dx dy : Int)
  | cross (screenId : ScreenId) (x y : Int)
  deriving DecidableEq, Repr

structure TopologyRouter where
  topology : ScreenTopology
  active : ScreenId
  x : Int
  y : Int
  barrier : EdgeBarrier Edge
  deriving DecidableEq, Repr

/-- Map a coordinate from one extent to another in `i64`, keeping it inside the target. -/
def scaleAxis (value fromExtent toExtent : Int) : Outcome String Int :=
  if fromExtent = 0 then
    .panic "attempt to divide by zero"
  else do
    let upper ← checkedPred toExtent
    clamp ((value * toExtent).tdiv fromExtent) 0 upper

/-- One pixel inside the side of the target where coordinates start. -/
def nearSide (extent : Int) : Outcome String Int := do
  let last ← checkedPred extent
  pure (min 1 last)

/-- One pixel inside the side of the target where coordinates end. -/
def farSide (extent : Int) : Int := saturatingSub extent 2

/-- The coordinate along the crossed edge, mapped into the target. -/
def alongEdge (next fromExtent toExtent : Int) : Outcome String Int := do
  let value ← clamp next 0 (← checkedPred fromExtent)
  scaleAxis value fromExtent toExtent

namespace TopologyRouter

/-- The size of a screen to enter, or the error for a screen the topology does not have. -/
def activeSize (topology : ScreenTopology) (active : ScreenId) : Outcome String ScreenSize := do
  let node ← Outcome.ofOption ("active screen " ++ active.value ++ " is not in the topology")
    (topology.find active)
  pure node.effectiveSize

/-- Clamp a position into a screen. -/
def clampInto (size : ScreenSize) (x y : Int) : Outcome String (Int × Int) := do
  let x ← clamp x 0 (← checkedPred size.width)
  let y ← clamp y 0 (← checkedPred size.height)
  pure (x, y)

def new (topology : ScreenTopology) (active : ScreenId) (x y : Int) :
    Outcome String TopologyRouter := do
  topology.validate
  let size ← activeSize topology active
  let (x, y) ← clampInto size x y
  pure { topology, active, x, y, barrier := .reset }

def setPosition (router : TopologyRouter) (active : ScreenId) (x y : Int) :
    Outcome String TopologyRouter := do
  let size ← activeSize router.topology active
  let (x, y) ← clampInto size x y
  pure { router with active, x, y, barrier := .reset }

def replaceTopology (router : TopologyRouter) (topology : ScreenTopology) :
    Outcome String TopologyRouter := do
  topology.validate
  let size ← activeSize topology router.active
  let (x, y) ← clampInto size router.x router.y
  pure { router with topology, x, y, barrier := .reset }

def isOnline (router : TopologyRouter) (id : ScreenId) : Bool :=
  (router.topology.find id).any ScreenNode.online

/-- The edge across the first link at this edge of the active screen whose far screen is online. -/
def linkedEdge (router : TopologyRouter) (edge : Edge) : Option ScreenEdge :=
  let source : ScreenEdge := { screenId := router.active, edge }
  router.topology.links.findSome? fun link =>
    if link.fromEdge = source then
      if router.isOnline link.toEdge.screenId then some link.toEdge else none
    else if link.toEdge = source then
      if router.isOnline link.fromEdge.screenId then some link.fromEdge else none
    else
      none

def screenSize (router : TopologyRouter) (id : ScreenId) : Outcome String ScreenSize :=
  match router.topology.find id with
  | some node => .ok node.effectiveSize
  | none => .panic "validated topology contains routed screen"

/-- The border the cursor is on and pushed out of, horizontal borders first. -/
def crossedEdge (size : ScreenSize) (x y dx dy : Int) : Outcome String (Option Edge) := do
  if x = 0 ∧ dx < 0 then
    return some .left
  let right ← checkedPred size.width
  if x = right ∧ 0 < dx then
    return some .right
  if y = 0 ∧ dy < 0 then
    return some .top
  let bottom ← checkedPred size.height
  if y = bottom ∧ 0 < dy then
    return some .bottom
  return none

/-- The border the motion carries the cursor to, horizontal borders first. -/
def reachedEdge (size : ScreenSize) (nextX nextY dx dy : Int) : Outcome String (Option Edge) := do
  if nextX ≤ 0 ∧ dx < 0 then
    return some .left
  let right ← checkedPred size.width
  if right ≤ nextX ∧ 0 < dx then
    return some .right
  if nextY ≤ 0 ∧ dy < 0 then
    return some .top
  let bottom ← checkedPred size.height
  if bottom ≤ nextY ∧ 0 < dy then
    return some .bottom
  return none

/-- The outward part of a motion at an edge. -/
def outward (edge : Edge) (dx dy : Int) : Int :=
  match edge with
  | .left => saturatingAbs dx
  | .right => dx
  | .top => saturatingAbs dy
  | .bottom => dy

/-- Where the cursor enters the target screen after leaving through `edge`. -/
def entryPoint (edge : Edge) (size target : ScreenSize) (nextX nextY : Int) :
    Outcome String (Int × Int) := do
  match edge with
  | .left =>
      let y ← alongEdge nextY size.height target.height
      pure (farSide target.width, y)
  | .right =>
      let x ← nearSide target.width
      let y ← alongEdge nextY size.height target.height
      pure (x, y)
  | .top =>
      let x ← alongEdge nextX size.width target.width
      pure (x, farSide target.height)
  | .bottom =>
      let x ← alongEdge nextX size.width target.width
      let y ← nearSide target.height
      pure (x, y)

/-- Move the cursor on the active screen, stopping at its borders. -/
def settle (router : TopologyRouter) (size : ScreenSize) (nextX nextY dx dy : Int) :
    Outcome String (TopologyRoute × TopologyRouter) := do
  let (x, y) ← clampInto size nextX nextY
  pure (.stay router.active dx dy, { router with x, y })

/-- Press the barrier by time when the motion has a timestamp and by distance otherwise. -/
def pressBarrier (barrier : EdgeBarrier Edge) (edge : Edge) (dx dy : Int) :
    Option Nat → Bool × EdgeBarrier Edge
  | some timestampMicros => barrier.waitElapsed edge timestampMicros
  | none => barrier.push edge (outward edge dx dy)

/-- Press against a linked edge: stay while the barrier holds, cross once it gives way. -/
def pressEdge (router : TopologyRouter) (size : ScreenSize) (edge : Edge) (target : ScreenEdge)
    (nextX nextY dx dy : Int) (timestampMicros : Option Nat) :
    Outcome String (TopologyRoute × TopologyRouter) := do
  let (canCross, barrier) := pressBarrier router.barrier edge dx dy timestampMicros
  let router := { router with barrier }
  if canCross then
    let targetSize ← router.screenSize target.screenId
    let (x, y) ← entryPoint edge size targetSize nextX nextY
    pure (.cross target.screenId x y, { router with active := target.screenId, x, y })
  else
    router.settle size nextX nextY dx dy

/-- Move without crossing, starting the clock of a linked edge that the motion reaches. -/
def moveInside (router : TopologyRouter) (size : ScreenSize) (nextX nextY dx dy : Int)
    (timestampMicros : Option Nat) : Outcome String (TopologyRoute × TopologyRouter) := do
  let reached ← reachedEdge size nextX nextY dx dy
  let barrier :=
    match timestampMicros, reached with
    | some timestampMicros, some edge =>
        if (router.linkedEdge edge).isSome then
          router.barrier.startWait edge timestampMicros
        else
          .reset
    | _, _ => .reset
  { router with barrier }.settle size nextX nextY dx dy

def routeMotionInner (router : TopologyRouter) (dx dy : Int) (timestampMicros : Option Nat) :
    Outcome String (TopologyRoute × TopologyRouter) := do
  let size ← router.screenSize router.active
  let nextX := saturatingAdd router.x dx
  let nextY := saturatingAdd router.y dy
  let crossed ← crossedEdge size router.x router.y dx dy
  match crossed.bind fun edge => (router.linkedEdge edge).map (Prod.mk edge) with
  | some (edge, target) =>
      router.pressEdge size edge target nextX nextY dx dy timestampMicros
  | none => router.moveInside size nextX nextY dx dy timestampMicros

def routeMotion (router : TopologyRouter) (dx dy : Int) :
    Outcome String (TopologyRoute × TopologyRouter) :=
  router.routeMotionInner dx dy none

def routeMotionAt (router : TopologyRouter) (dx dy : Int) (timestampMicros : Nat) :
    Outcome String (TopologyRoute × TopologyRouter) :=
  router.routeMotionInner dx dy (some timestampMicros)

/-! ## What one motion does -/

theorem settle_eq_ok {router next : TopologyRouter} {size : ScreenSize} {nextX nextY dx dy : Int}
    {route : TopologyRoute} (settled : router.settle size nextX nextY dx dy = .ok (route, next)) :
    route = .stay router.active dx dy ∧ ∃ x y, next = { router with x, y } := by
  simp only [settle, Outcome.bind_eq_ok, Outcome.pure_eq, Outcome.ok.injEq, Prod.mk.injEq]
    at settled
  obtain ⟨⟨x, y⟩, _, rfl, rfl⟩ := settled
  exact ⟨rfl, x, y, rfl⟩

/-- A motion keeps the topology; it stays on the active screen or crosses a linked edge of it. -/
theorem routeMotionInner_cases {router next : TopologyRouter} {dx dy : Int}
    {timestampMicros : Option Nat} {route : TopologyRoute}
    (routed : router.routeMotionInner dx dy timestampMicros = .ok (route, next)) :
    next.topology = router.topology ∧
      ((route = .stay router.active dx dy ∧ next.active = router.active) ∨
        ∃ edge target x y, router.linkedEdge edge = some target ∧
          route = .cross target.screenId x y ∧ next.active = target.screenId) := by
  simp only [routeMotionInner, Outcome.bind_eq_ok] at routed
  obtain ⟨size, _, crossed, _, routed⟩ := routed
  split at routed
  · rename_i edge target selected
    obtain ⟨_, _, mapped⟩ := Option.bind_eq_some_iff.mp selected
    obtain ⟨_, linked, same⟩ := Option.map_eq_some_iff.mp mapped
    cases same
    simp only [pressEdge] at routed
    cases given : (pressBarrier router.barrier edge dx dy timestampMicros).1 <;>
      simp only [given, if_true, Bool.false_eq_true, if_false] at routed
    · obtain ⟨rfl, x, y, rfl⟩ := settle_eq_ok routed
      exact ⟨rfl, Or.inl ⟨rfl, rfl⟩⟩
    · simp only [Outcome.bind_eq_ok, Outcome.pure_eq, Outcome.ok.injEq, Prod.mk.injEq] at routed
      obtain ⟨_, _, ⟨x, y⟩, _, rfl, rfl⟩ := routed
      exact ⟨rfl, Or.inr ⟨edge, target, x, y, linked, rfl, rfl⟩⟩
  · simp only [moveInside, Outcome.bind_eq_ok] at routed
    obtain ⟨_, _, routed⟩ := routed
    obtain ⟨rfl, x, y, rfl⟩ := settle_eq_ok routed
    exact ⟨rfl, Or.inl ⟨rfl, rfl⟩⟩

/-- A linked edge comes from a link of the topology at that edge, with an online far screen. -/
theorem linkedEdge_eq_some {router : TopologyRouter} {edge : Edge} {target : ScreenEdge}
    (linked : router.linkedEdge edge = some target) :
    router.isOnline target.screenId = true ∧
      ∃ link ∈ router.topology.links,
        (link.fromEdge = { screenId := router.active, edge } ∧ link.toEdge = target) ∨
          (link.toEdge = { screenId := router.active, edge } ∧ link.fromEdge = target) := by
  obtain ⟨link, member, chosen⟩ := List.exists_of_findSome?_eq_some linked
  split_ifs at chosen with leaving online entering online
  · obtain rfl := Option.some.inj chosen
    exact ⟨online, link, member, Or.inl ⟨leaving, rfl⟩⟩
  · obtain rfl := Option.some.inj chosen
    exact ⟨online, link, member, Or.inr ⟨entering, rfl⟩⟩

theorem isSome_find_of_linkedEdge {router : TopologyRouter} {edge : Edge} {target : ScreenEdge}
    (linked : router.linkedEdge edge = some target) :
    (router.topology.find target.screenId).isSome := by
  obtain ⟨online, _⟩ := linkedEdge_eq_some linked
  exact Option.isSome_of_any online

/-- Clamping into a screen succeeds exactly for positive sizes. -/
theorem clampInto_isOk {size : ScreenSize} {x y : Int} :
    (clampInto size x y).IsOk ↔ size.Positive := by
  simp only [Outcome.IsOk, clampInto, Outcome.bind_eq_ok, checkedPred_eq_ok, clamp_eq_ok,
    ScreenSize.Positive, i32Min]
  constructor
  · rintro ⟨_, _, ⟨_, rfl⟩, _, ⟨width, _⟩, _, ⟨_, rfl⟩, _, ⟨height, _⟩, _⟩
    omega
  · rintro ⟨width, height⟩
    exact ⟨_, _, ⟨by omega, rfl⟩, _, ⟨by omega, rfl⟩, _, ⟨by omega, rfl⟩, _, ⟨by omega, rfl⟩, rfl⟩

theorem activeSize_eq_ok {topology : ScreenTopology} {active : ScreenId} {size : ScreenSize} :
    activeSize topology active = .ok size ↔
      ∃ node, topology.find active = some node ∧ size = node.effectiveSize := by
  simp only [activeSize, Outcome.bind_eq_ok, Outcome.ofOption_eq_ok, Outcome.pure_eq,
    Outcome.ok.injEq]
  exact exists_congr fun _ => and_congr_right fun _ => eq_comm

theorem new_eq_ok {topology : ScreenTopology} {active : ScreenId} {x y : Int}
    {router : TopologyRouter} (built : new topology active x y = .ok router) :
    router.topology = topology ∧ router.active = active ∧ topology.WellFormed ∧
      (topology.find active).isSome := by
  simp only [new, Outcome.bind_eq_ok, activeSize_eq_ok, Outcome.pure_eq, Outcome.ok.injEq]
    at built
  obtain ⟨⟨⟩, valid, _, ⟨node, found, _⟩, _, _, rfl⟩ := built
  exact ⟨rfl, rfl, ScreenTopology.validate_eq_ok.mp valid, by simp [found]⟩

theorem setPosition_eq_ok {router next : TopologyRouter} {active : ScreenId} {x y : Int}
    (placed : router.setPosition active x y = .ok next) :
    next.topology = router.topology ∧ next.active = active := by
  simp only [setPosition, Outcome.bind_eq_ok, Outcome.pure_eq, Outcome.ok.injEq] at placed
  obtain ⟨_, _, _, _, rfl⟩ := placed
  exact ⟨rfl, rfl⟩

/-- A replaced topology is valid and still has the active screen. -/
theorem replaceTopology_eq_ok {router next : TopologyRouter} {topology : ScreenTopology}
    (replaced : router.replaceTopology topology = .ok next) :
    next.topology = topology ∧ next.active = router.active ∧ topology.WellFormed ∧
      (topology.find router.active).isSome := by
  simp only [replaceTopology, Outcome.bind_eq_ok, activeSize_eq_ok, Outcome.pure_eq,
    Outcome.ok.injEq] at replaced
  obtain ⟨⟨⟩, valid, _, ⟨node, found, _⟩, _, _, rfl⟩ := replaced
  exact ⟨rfl, rfl, ScreenTopology.validate_eq_ok.mp valid, by simp [found]⟩

end TopologyRouter
end Rflow
