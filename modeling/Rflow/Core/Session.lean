import Rflow.Core.CursorRouter
import Rflow.Core.Input

/-!
# The desktop session

The pure input-routing state machine shared by the host and the client: events go in, an ordered
list of effects for the runtime comes out.
-/

namespace Rflow

open Foundation

inductive ControlTarget where
  | localControl
  | remoteControl
  deriving DecidableEq, Repr

inductive SessionEvent where
  | physicalInput (event : InputEvent)
  | physicalMotion (motion : Motion)
  | remoteInput (event : InputEvent)
  | remoteMotion (motion : Motion)
  | enterRemote (x y : Int)
  | releaseRemote
  | peerDisconnected
  | stopRequested
  deriving DecidableEq, Repr

inductive SessionEffect where
  | injectLocal (event : InputEvent)
  | injectLocalMotion (dx dy : Int)
  | sendRemote (event : InputEvent)
  | sendRemoteMotion (motion : Motion)
  | enterRemote (x y : Int)
  | setLocalCursor (x y : Int)
  | releaseRemote
  | sendScreen (screenId : ScreenId) (event : InputEvent)
  | sendScreenMotion (screenId : ScreenId) (motion : Motion)
  | enterScreen (screenId : ScreenId) (x y : Int)
  | releaseScreen (screenId : ScreenId)
  | controlChanged (control : ControlTarget)
  deriving DecidableEq, Repr

inductive SessionRole where
  | host
  | client
  deriving DecidableEq, Repr

inductive HostRouter where
  | legacy (router : CursorRouter)
  | topology (router : TopologyRouter) (localScreen : ScreenId)
  deriving DecidableEq, Repr

structure DesktopSession where
  role : SessionRole
  router : Option HostRouter
  control : ControlTarget
  physicalHeld : OrderedSet HeldInput
  localInjected : OrderedSet HeldInput
  remoteInjected : OrderedSet HeldInput
  lastRemoteMotion : Option Nat
  deriving DecidableEq

/-- Track an event in a set of held inputs; scrolls and repeats leave it alone. -/
def observe (held : OrderedSet HeldInput) (event : InputEvent) : OrderedSet HeldInput :=
  match event.held, event.state with
  | some item, some .pressed => held.insert item
  | some item, some .released => held.remove item
  | _, _ => held

namespace DesktopSession

/-- The effects that inject an event for each held input, in iteration order. -/
def injectAll (held : OrderedSet HeldInput) (state : ButtonState) : List SessionEffect :=
  held.toList.map fun item => .injectLocal (item.event state)

/-- The effects that press each held input on a screen, in iteration order. -/
def sendAll (screenId : ScreenId) (held : OrderedSet HeldInput) : List SessionEffect :=
  held.toList.map fun item => .sendScreen screenId (item.event .pressed)

def host (localSize remoteSize : ScreenSize) (direction : ScreenDirection) : DesktopSession where
  role := .host
  router := some (.legacy (CursorRouter.new localSize remoteSize direction))
  control := .localControl
  physicalHeld := ∅
  localInjected := ∅
  remoteInjected := ∅
  lastRemoteMotion := none

def hostTopology (topology : ScreenTopology) (localScreen : ScreenId) (x y : Int) :
    Outcome String DesktopSession := do
  let router ← TopologyRouter.new topology localScreen x y
  pure
    { role := .host
      router := some (.topology router localScreen)
      control := .localControl
      physicalHeld := ∅
      localInjected := ∅
      remoteInjected := ∅
      lastRemoteMotion := none }

def client : DesktopSession where
  role := .client
  router := none
  control := .remoteControl
  physicalHeld := ∅
  localInjected := ∅
  remoteInjected := ∅
  lastRemoteMotion := none

/-- Whether the active screen of a replaced topology can stay active: it is online and some link
touches it. -/
def activeStillRoutable (topology : ScreenTopology) (active : ScreenId) : Bool :=
  (topology.find active).any ScreenNode.online && topology.links.any fun link => link.touches active

/-- Give up the remote screen, put the cursor on the local one and press what is still held. -/
def returnLocal (session : DesktopSession) (router : HostRouter) (previous : ScreenId) (x y : Int) :
    List SessionEffect × DesktopSession :=
  ([.releaseScreen previous, .setLocalCursor x y] ++ injectAll session.physicalHeld .pressed ++
      [.controlChanged .localControl],
    { session with
      router := some router
      control := .localControl
      remoteInjected := ∅
      localInjected := session.localInjected.insertAll session.physicalHeld.toList })

def replaceTopology (session : DesktopSession) (topology : ScreenTopology) :
    Outcome String (List SessionEffect × DesktopSession) :=
  match session.router with
  | some (.topology router localScreen) =>
      let activeScreen := router.active
      if activeScreen ≠ localScreen ∧ activeStillRoutable topology activeScreen = false then do
        let localNode ← Outcome.ofOption "no online local screen is available"
          (topology.screens.find? fun screen => screen.screenId = localScreen ∧ screen.online)
        let x := localNode.effectiveSize.width.tdiv 2
        let y := localNode.effectiveSize.height.tdiv 2
        let router ← router.replaceTopology topology
        let router ← router.setPosition localScreen x y
        pure (session.returnLocal (.topology router localScreen) activeScreen x y)
      else do
        let router ← router.replaceTopology topology
        pure ([], { session with router := some (.topology router localScreen) })
  | _ => .err "session is not using topology routing"

/-- The active screen when it is not the local one. -/
def activeTopologyScreen (session : DesktopSession) : Option ScreenId :=
  match session.router with
  | some (.topology router localScreen) =>
      if router.active ≠ localScreen then some router.active else none
  | _ => none

/-- The session routes with a topology, in a way that passes the test. -/
def routesBy (session : DesktopSession) (test : TopologyRouter → ScreenId → Bool) : Bool :=
  match session.router with
  | some (.topology router localScreen) => test router localScreen
  | _ => false

/-- A repeat of a key that was not seen going down. -/
def orphanRepeat (session : DesktopSession) (event : InputEvent) : Bool :=
  match event with
  | .key key .repeated => decide (HeldInput.key key ∉ session.physicalHeld)
  | _ => false

def handlePhysicalInput (session : DesktopSession) (event : InputEvent) :
    List SessionEffect × DesktopSession :=
  if session.orphanRepeat event then
    ([], session)
  else
    let session := { session with physicalHeld := observe session.physicalHeld event }
    match session.control with
    | .localControl =>
        ([.injectLocal event],
          { session with localInjected := observe session.localInjected event })
    | .remoteControl =>
        let next := { session with remoteInjected := observe session.remoteInjected event }
        match next.activeTopologyScreen with
        | some screenId => ([.sendScreen screenId event], next)
        | none => ([.sendRemote event], next)

/-- Move control to a remote screen, releasing the previous target first. -/
def enterScreen (session : DesktopSession) (previous screenId : ScreenId) (x y : Int) :
    List SessionEffect × DesktopSession :=
  let held := session.physicalHeld.toList
  let arrive := .enterScreen screenId x y :: sendAll screenId session.physicalHeld
  match session.control with
  | .remoteControl =>
      (.releaseScreen previous :: arrive,
        { session with
          control := .remoteControl
          remoteInjected := (∅ : OrderedSet HeldInput).insertAll held })
  | .localControl =>
      (injectAll session.localInjected .released ++ arrive ++ [.controlChanged .remoteControl],
        { session with
          control := .remoteControl
          localInjected := ∅
          remoteInjected := session.remoteInjected.insertAll held })

/-- Carry out a route of the topology router. -/
def followRoute (session : DesktopSession) (router : TopologyRouter)
    (localScreen previous : ScreenId)
    (motion : Motion) : TopologyRoute → List SessionEffect × DesktopSession
  | .stay screenId dx dy =>
      let next := { session with router := some (.topology router localScreen) }
      if screenId = localScreen then
        ([.injectLocalMotion dx dy], next)
      else
        ([.sendScreenMotion screenId { motion with dx, dy }], next)
  | .cross screenId x y =>
      if screenId = localScreen then
        session.returnLocal (.topology router localScreen) previous x y
      else
        { session with router := some (.topology router localScreen) }.enterScreen
          previous screenId x y

/-- Carry out a route of the two-screen router. -/
def followLegacyRoute (session : DesktopSession) (router : CursorRouter) (motion : Motion) :
    Route → List SessionEffect × DesktopSession
  | .localMotion dx dy =>
      ([.injectLocalMotion dx dy], { session with router := some (.legacy router) })
  | .remoteMotion dx dy =>
      ([.sendRemoteMotion { motion with dx, dy }], { session with router := some (.legacy router) })
  | .enterRemote x y =>
      (injectAll session.localInjected .released ++ [.enterRemote x y] ++
          (session.physicalHeld.toList.map fun item => .sendRemote (item.event .pressed)) ++
          [.controlChanged .remoteControl],
        { session with
          router := some (.legacy router)
          control := .remoteControl
          localInjected := ∅
          remoteInjected := session.remoteInjected.insertAll session.physicalHeld.toList })
  | .enterLocal x y =>
      ([.releaseRemote, .setLocalCursor x y] ++ injectAll session.physicalHeld .pressed ++
          [.controlChanged .localControl],
        { session with
          router := some (.legacy router)
          control := .localControl
          remoteInjected := ∅
          localInjected := session.localInjected.insertAll session.physicalHeld.toList })

def handlePhysicalMotion (session : DesktopSession) (motion : Motion) :
    Outcome String (List SessionEffect × DesktopSession) :=
  match session.router with
  | none => .ok ([], session)
  | some (.topology router localScreen) => do
      let (route, next) ← router.routeMotionAt motion.dx motion.dy motion.timestampMicros
      pure (session.followRoute next localScreen router.active motion route)
  | some (.legacy router) => do
      let (route, next) ← router.routeMotion motion.dx motion.dy
      pure (session.followLegacyRoute next motion route)

/-- Release everything that was injected, locally and on the remote target. -/
def releaseInjected (session : DesktopSession) : List SessionEffect × DesktopSession :=
  let released := injectAll session.localInjected .released
  let next := { session with localInjected := ∅ }
  if session.role = .host ∧ session.remoteInjected ≠ ∅ then
    (released ++
        [match session.activeTopologyScreen with
          | some screenId => .releaseScreen screenId
          | none => .releaseRemote],
      { next with remoteInjected := ∅ })
  else
    (released, next)

def handle (session : DesktopSession) (event : SessionEvent) :
    Outcome String (List SessionEffect × DesktopSession) :=
  match event with
  | .physicalInput event => .ok (session.handlePhysicalInput event)
  | .physicalMotion motion => session.handlePhysicalMotion motion
  | .remoteInput event =>
      .ok ([.injectLocal event],
        { session with localInjected := observe session.localInjected event })
  | .remoteMotion motion =>
      if session.lastRemoteMotion.any fun last => motion.sequence ≤ last then
        .ok ([], session)
      else
        .ok ([.injectLocalMotion motion.dx motion.dy],
          { session with lastRemoteMotion := some motion.sequence })
  | .enterRemote x y => .ok ([.setLocalCursor x y], session)
  | .releaseRemote | .peerDisconnected | .stopRequested => .ok session.releaseInjected

end DesktopSession

/-- A screen of the given name, device and state, one hundred pixels wide and high. -/
def sampleNode (name device : String) (online thisDevice : Bool) : ScreenNode where
  screenId := ⟨name⟩
  deviceId := ⟨device⟩
  deviceName := device
  name := name
  logicalSize := { width := 100, height := 100 }
  sizeOverride := none
  online := online
  thisDevice := thisDevice

/-- A link from the right edge of one screen to the left edge of another. -/
def sampleLink (left right : String) : ScreenLink where
  fromEdge := { screenId := ⟨left⟩, edge := .right }
  toEdge := { screenId := ⟨right⟩, edge := .left }

/-- A local and a remote screen side by side, with or without the link between them. -/
def sampleTopology (linked : Bool) : ScreenTopology where
  revision := 0
  screens := [sampleNode "local" "host" true true, sampleNode "remote" "peer" true false]
  links := if linked then [sampleLink "local" "remote"] else []

namespace DesktopSession

/-- A session whose cursor has crossed from the local to the remote screen of the sample
topology. -/
def sampleAway : DesktopSession where
  role := .host
  router := some (.topology
    { topology := sampleTopology true, active := ⟨"remote"⟩, x := 1, y := 50, barrier := .reset }
    ⟨"local"⟩)
  control := .remoteControl
  physicalHeld := ∅
  localInjected := ∅
  remoteInjected := ∅
  lastRemoteMotion := none

/-! ## What one step of a topology session does -/

theorem routesBy_eq_true {session : DesktopSession} {test : TopologyRouter → ScreenId → Bool} :
    session.routesBy test = true ↔
      ∃ router localScreen, session.router = some (.topology router localScreen) ∧
        test router localScreen = true := by
  unfold routesBy
  split
  · rename_i router localScreen routes
    simp [routes]
  · rename_i other
    simp only [Bool.false_eq_true, false_iff]
    rintro ⟨router, localScreen, routes, _⟩
    exact other router localScreen routes

/-- The session routes over a topology and control is remote exactly off the local screen. -/
structure Routed (session : DesktopSession) (router : TopologyRouter) (localScreen : ScreenId) :
    Prop where
  routes : session.router = some (.topology router localScreen)
  follows : session.control = .remoteControl ↔ router.active ≠ localScreen

/-- Direct input does not move the cursor. -/
@[simp]
theorem handlePhysicalInput_router (session : DesktopSession) (event : InputEvent) :
    (session.handlePhysicalInput event).2.router = session.router := by
  unfold handlePhysicalInput
  split_ifs
  · rfl
  · cases control : session.control <;> simp only
    split <;> rfl

@[simp]
theorem enterScreen_router (session : DesktopSession) (previous screenId : ScreenId) (x y : Int) :
    (session.enterScreen previous screenId x y).2.router = session.router := by
  unfold enterScreen
  cases session.control <;> rfl

/-- A motion stays on the active screen, comes home, or enters another screen over a linked edge. -/
theorem handlePhysicalMotion_cases {session next : DesktopSession} {router : TopologyRouter}
    {localScreen : ScreenId} {motion : Motion} {effects : List SessionEffect}
    (routes : session.router = some (.topology router localScreen))
    (handled : session.handlePhysicalMotion motion = .ok (effects, next)) :
    ∃ nextRouter, nextRouter.topology = router.topology ∧
      ((nextRouter.active = router.active ∧
          next = { session with router := some (.topology nextRouter localScreen) } ∧
          effects =
            if router.active = localScreen then [.injectLocalMotion motion.dx motion.dy]
            else [.sendScreenMotion router.active motion]) ∨
        ∃ edge target x y, router.linkedEdge edge = some target ∧
          nextRouter.active = target.screenId ∧
          ((target.screenId = localScreen ∧
              (effects, next) =
                session.returnLocal (.topology nextRouter localScreen) router.active x y) ∨
            (target.screenId ≠ localScreen ∧
              (effects, next) =
                { session with router := some (.topology nextRouter localScreen) }.enterScreen
                  router.active target.screenId x y))) := by
  simp only [handlePhysicalMotion, routes, Outcome.bind_eq_ok, Outcome.pure_eq,
    Outcome.ok.injEq] at handled
  obtain ⟨⟨route, nextRouter⟩, routed, followed⟩ := handled
  obtain ⟨sameTopology, stayed | crossed⟩ := TopologyRouter.routeMotionInner_cases routed
  · obtain ⟨rfl, sameActive⟩ := stayed
    refine ⟨nextRouter, sameTopology, Or.inl ⟨sameActive, ?_⟩⟩
    simp only [followRoute] at followed
    split_ifs at followed ⊢ with atHome <;> simp_all
  · obtain ⟨edge, target, x, y, linked, rfl, newActive⟩ := crossed
    refine ⟨nextRouter, sameTopology, Or.inr ⟨edge, target, x, y, linked, newActive, ?_⟩⟩
    simp only [followRoute] at followed
    split_ifs at followed with atHome
    · exact Or.inl ⟨atHome, followed.symm⟩
    · exact Or.inr ⟨atHome, followed.symm⟩

/-- A successful replacement either gives the remote screen up and returns control to the online
local screen, or only swaps the topology under the active screen. -/
theorem replaceTopology_cases {session next : DesktopSession} {router : TopologyRouter}
    {localScreen : ScreenId} {topology : ScreenTopology} {effects : List SessionEffect}
    (routes : session.router = some (.topology router localScreen))
    (replaced : session.replaceTopology topology = .ok (effects, next)) :
    topology.WellFormed ∧ (topology.find router.active).isSome ∧
      ∃ nextRouter, nextRouter.topology = topology ∧
        ((router.active ≠ localScreen ∧ activeStillRoutable topology router.active = false ∧
            nextRouter.active = localScreen ∧
            ∃ x y, (effects, next) =
              session.returnLocal (.topology nextRouter localScreen) router.active x y) ∨
          ((router.active = localScreen ∨ activeStillRoutable topology router.active = true) ∧
            nextRouter.active = router.active ∧ effects = [] ∧
            next = { session with router := some (.topology nextRouter localScreen) })) := by
  simp only [replaceTopology, routes] at replaced
  split_ifs at replaced with lost
  · simp only [Outcome.bind_eq_ok, Outcome.pure_eq, Outcome.ok.injEq] at replaced
    obtain ⟨localNode, _, swapped, swap, placed, place, returned⟩ := replaced
    obtain ⟨newTopology, _, wellFormed, present⟩ := TopologyRouter.replaceTopology_eq_ok swap
    obtain ⟨keptTopology, newActive⟩ := TopologyRouter.setPosition_eq_ok place
    exact ⟨wellFormed, present, placed, keptTopology.trans newTopology,
      Or.inl ⟨lost.1, lost.2, newActive, _, _, returned.symm⟩⟩
  · simp only [Outcome.bind_eq_ok, Outcome.pure_eq, Outcome.ok.injEq, Prod.mk.injEq] at replaced
    obtain ⟨swapped, swap, rfl, rfl⟩ := replaced
    obtain ⟨newTopology, sameActive, wellFormed, present⟩ :=
      TopologyRouter.replaceTopology_eq_ok swap
    refine ⟨wellFormed, present, swapped, newTopology, Or.inr ⟨?_, sameActive, rfl, rfl⟩⟩
    simpa [or_iff_not_imp_left] using lost

theorem hostTopology_eq_ok {topology : ScreenTopology} {localScreen : ScreenId} {x y : Int}
    {session : DesktopSession}
    (built : hostTopology topology localScreen x y = .ok session) :
    topology.WellFormed ∧ (topology.find localScreen).isSome ∧
      ∃ router : TopologyRouter, router.topology = topology ∧ router.active = localScreen ∧
        session =
          { role := .host
            router := some (.topology router localScreen)
            control := .localControl
            physicalHeld := ∅
            localInjected := ∅
            remoteInjected := ∅
            lastRemoteMotion := none } := by
  simp only [hostTopology, Outcome.bind_eq_ok, Outcome.pure_eq, Outcome.ok.injEq] at built
  obtain ⟨router, created, rfl⟩ := built
  obtain ⟨sameTopology, sameActive, wellFormed, present⟩ := TopologyRouter.new_eq_ok created
  exact ⟨wellFormed, present, router, sameTopology, sameActive, rfl⟩

end DesktopSession
end Rflow
