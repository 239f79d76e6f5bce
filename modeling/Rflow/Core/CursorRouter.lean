import Rflow.Core.Router

/-!
# Routing the cursor between two screens

The router of the older two-screen sessions: one local screen, one remote screen and one of eight
directions between them.
-/

namespace Rflow

open Foundation

inductive ScreenDirection where
  | top
  | topRight
  | right
  | bottomRight
  | bottom
  | bottomLeft
  | left
  | topLeft
  deriving DecidableEq, Repr

inductive ActiveScreen where
  | localScreen
  | remoteScreen
  deriving DecidableEq, Repr

inductive Route where
  | localMotion (dx dy : Int)
  | remoteMotion (dx dy : Int)
  | enterRemote (x y : Int)
  | enterLocal (x y : Int)
  deriving DecidableEq, Repr

structure CursorRouter where
  localSize : ScreenSize
  remoteSize : ScreenSize
  direction : ScreenDirection
  active : ActiveScreen
  x : Int
  y : Int
  barrier : EdgeBarrier ScreenDirection
  deriving DecidableEq, Repr

/-- How far a motion pushes out of the screen towards the other one, if it does. -/
def outwardDistance (direction : ScreenDirection) (x y : Int) (size : ScreenSize) (dx dy : Int)
    (returning : Bool) : Outcome String (Option Int) := do
  let lastX ← checkedPred size.width
  let lastY ← checkedPred size.height
  let left := x = 0 ∧ dx < 0
  let right := x = lastX ∧ 0 < dx
  let top := y = 0 ∧ dy < 0
  let bottom := y = lastY ∧ 0 < dy
  let backwardX := saturatingAbs dx
  let backwardY := saturatingAbs dy
  pure <|
    match direction, returning with
    | .right, false => if right then some dx else none
    | .right, true => if left then some backwardX else none
    | .left, false => if left then some backwardX else none
    | .left, true => if right then some dx else none
    | .top, false => if top then some backwardY else none
    | .top, true => if bottom then some dy else none
    | .bottom, false => if bottom then some dy else none
    | .bottom, true => if top then some backwardY else none
    | .topRight, false => if right ∧ top then some (min dx backwardY) else none
    | .topRight, true => if left ∧ bottom then some (min backwardX dy) else none
    | .bottomRight, false => if right ∧ bottom then some (min dx dy) else none
    | .bottomRight, true => if left ∧ top then some (min backwardX backwardY) else none
    | .bottomLeft, false => if left ∧ bottom then some (min backwardX dy) else none
    | .bottomLeft, true => if right ∧ top then some (min dx backwardY) else none
    | .topLeft, false => if left ∧ top then some (min backwardX backwardY) else none
    | .topLeft, true => if right ∧ bottom then some (min dx dy) else none

namespace CursorRouter

def new (localSize remoteSize : ScreenSize) (direction : ScreenDirection) : CursorRouter where
  localSize := localSize
  remoteSize := remoteSize
  direction := direction
  active := .localScreen
  x := localSize.width.tdiv 2
  y := localSize.height.tdiv 2
  barrier := .reset

def setLocalPosition (router : CursorRouter) (x y : Int) : Outcome String CursorRouter := do
  let (x, y) ← TopologyRouter.clampInto router.localSize x y
  pure { router with active := .localScreen, x, y, barrier := .reset }

/-- Press the barrier when the motion is outward and reset it otherwise. -/
def pressBarrier (router : CursorRouter) : Option Int → Bool × EdgeBarrier ScreenDirection
  | some distance => router.barrier.push router.direction distance
  | none => (false, .reset)

/-- Where the cursor enters the remote screen. -/
def remoteEntry (router : CursorRouter) (nextX nextY : Int) : Outcome String (Int × Int) := do
  let source := router.localSize
  let target := router.remoteSize
  match router.direction with
  | .right => pure (← nearSide target.width, ← alongEdge nextY source.height target.height)
  | .left => pure (farSide target.width, ← alongEdge nextY source.height target.height)
  | .top => pure (← alongEdge nextX source.width target.width, farSide target.height)
  | .topRight => pure (← nearSide target.width, farSide target.height)
  | .bottom => pure (← alongEdge nextX source.width target.width, ← nearSide target.height)
  | .bottomRight => pure (← nearSide target.width, ← nearSide target.height)
  | .bottomLeft => pure (farSide target.width, ← nearSide target.height)
  | .topLeft => pure (farSide target.width, farSide target.height)

/-- Where the cursor enters the local screen on its way back. -/
def localEntry (router : CursorRouter) (nextX nextY : Int) : Outcome String (Int × Int) := do
  let source := router.remoteSize
  let target := router.localSize
  match router.direction with
  | .right => pure (farSide target.width, ← alongEdge nextY source.height target.height)
  | .left => pure (← nearSide target.width, ← alongEdge nextY source.height target.height)
  | .top => pure (← alongEdge nextX source.width target.width, ← nearSide target.height)
  | .topRight => pure (farSide target.width, ← nearSide target.height)
  | .bottom => pure (← alongEdge nextX source.width target.width, farSide target.height)
  | .bottomRight => pure (farSide target.width, farSide target.height)
  | .bottomLeft => pure (← nearSide target.width, farSide target.height)
  | .topLeft => pure (← nearSide target.width, ← nearSide target.height)

def routeLocal (router : CursorRouter) (dx dy : Int) : Outcome String (Route × CursorRouter) := do
  let nextX := saturatingAdd router.x dx
  let nextY := saturatingAdd router.y dy
  let outward ← outwardDistance router.direction router.x router.y router.localSize dx dy false
  let (canCross, barrier) := router.pressBarrier outward
  let router := { router with barrier }
  if canCross then
    let (x, y) ← router.remoteEntry nextX nextY
    pure (.enterRemote x y, { router with active := .remoteScreen, x, y })
  else
    let (x, y) ← TopologyRouter.clampInto router.localSize nextX nextY
    pure (.localMotion dx dy, { router with x, y })

def routeRemote (router : CursorRouter) (dx dy : Int) : Outcome String (Route × CursorRouter) := do
  let nextX := saturatingAdd router.x dx
  let nextY := saturatingAdd router.y dy
  let outward ← outwardDistance router.direction router.x router.y router.remoteSize dx dy true
  let (canCross, barrier) := router.pressBarrier outward
  let router := { router with barrier }
  if canCross then
    let (x, y) ← router.localEntry nextX nextY
    pure (.enterLocal x y, { router with active := .localScreen, x, y })
  else
    let (x, y) ← TopologyRouter.clampInto router.remoteSize nextX nextY
    pure (.remoteMotion dx dy, { router with x, y })

def routeMotion (router : CursorRouter) (dx dy : Int) : Outcome String (Route × CursorRouter) :=
  match router.active with
  | .localScreen => router.routeLocal dx dy
  | .remoteScreen => router.routeRemote dx dy

end CursorRouter
end Rflow
