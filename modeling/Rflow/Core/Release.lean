import Rflow.Core.Ownership

/-!
# Releasing what is held

The effects of a session of either role fold into what is down at every place that can have
something down.  Releasing takes everything back, however the session got there, and leaves nothing
to release.
-/

namespace Rflow

open Foundation

/-- Where a session can leave an input down: on this machine, at the peer of a session for two
screens, or on a screen of a topology. -/
inductive Receiver where
  | thisMachine
  | peer
  | screen (screenId : ScreenId)
  deriving DecidableEq, Repr

/-- What an event leaves down. -/
def InputEvent.press (event : InputEvent) (items : Finset HeldInput) : Finset HeldInput :=
  match event.held, event.state with
  | some item, some .pressed => insert item items
  | some item, some .released => items.erase item
  | _, _ => items

/-- What an effect leaves down: an event changes its receiver, a release empties it. -/
def SessionEffect.fold (down : Ledger Receiver HeldInput) :
    SessionEffect → Ledger Receiver HeldInput
  | .injectLocal event =>
      Function.update down .thisMachine (event.press (down .thisMachine))
  | .sendRemote event => Function.update down .peer (event.press (down .peer))
  | .sendScreen screenId event =>
      Function.update down (.screen screenId) (event.press (down (.screen screenId)))
  | .releaseRemote => Function.update down .peer ∅
  | .releaseScreen screenId => Function.update down (.screen screenId) ∅
  | .injectLocalMotion .. | .sendRemoteMotion _ | .enterRemote .. | .setLocalCursor ..
  | .sendScreenMotion .. | .enterScreen .. | .controlChanged _ => down

/-- What is down at each receiver after a stream of effects, starting with nothing. -/
def leftDown (effects : List SessionEffect) : Ledger Receiver HeldInput :=
  effects.foldl SessionEffect.fold fun _ => ∅

/-- An input of a session: an event, or a topology to take over. -/
inductive SessionInput where
  | event (event : SessionEvent)
  | replaceTopology (topology : ScreenTopology)
  deriving DecidableEq, Repr

/-- The events that give everything back. -/
def SessionEvent.IsRelease (event : SessionEvent) : Prop :=
  event = .releaseRemote ∨ event = .peerDisconnected ∨ event = .stopRequested

/-- The inputs that a role receives. -/
def SessionRole.Receives (role : SessionRole) : SessionInput → Prop
  | .event (.physicalInput _) | .event (.physicalMotion _) | .replaceTopology _ => role = .host
  | .event (.remoteMotion _) | .event (.enterRemote ..) => role = .client
  | .event (.remoteInput _) | .event .releaseRemote | .event .peerDisconnected
  | .event .stopRequested => True

namespace DesktopSession

/-- Feed one input to the session. -/
def drive (session : DesktopSession) :
    SessionInput → Outcome String (List SessionEffect × DesktopSession)
  | .event event => session.handle event
  | .replaceTopology topology => session.replaceTopology topology

/-- A session at its start: a client, a host for two screens, or a host that routes over a
topology. -/
inductive Starts : DesktopSession → Prop
  | client : Starts .client
  | host (localSize remoteSize : ScreenSize) (direction : ScreenDirection) :
      Starts (.host localSize remoteSize direction)
  | hostTopology (topology : ScreenTopology) (localScreen : ScreenId) (x y : Int)
      (session : DesktopSession)
      (built : DesktopSession.hostTopology topology localScreen x y = .ok session) : Starts session

/-- The receiver of what is injected remotely. -/
def remoteReceiver (session : DesktopSession) : Receiver :=
  match session.activeTopologyScreen with
  | some screenId => .screen screenId
  | none => .peer

/-- What the session has down, as its two sets say. -/
def hasDown (session : DesktopSession) : Ledger Receiver HeldInput :=
  Ledger.shared .thisMachine session.remoteReceiver (heldItems session.localInjected)
    (heldItems session.remoteInjected)

/-- A client injects nothing remotely, and a host that routes over a topology does so off its local
screen only. -/
structure Directed (session : DesktopSession) : Prop where
  client : session.role = .client → session.remoteInjected = ∅
  routed : ∀ router localScreen, session.router = some (.topology router localScreen) →
    session.Routed router localScreen ∧
      (session.control = .localControl → session.remoteInjected = ∅)

end DesktopSession

/-! ## Folded effects -/

theorem heldItems_insertAll (held : OrderedSet HeldInput) (items : List HeldInput) :
    heldItems (held.insertAll items) = items.toFinset ∪ heldItems held := by
  ext item
  simp

theorem press_heldItems (event : InputEvent) (held : OrderedSet HeldInput) :
    event.press (heldItems held) = heldItems (observe held event) := by
  unfold InputEvent.press observe
  cases event.held with
  | none => rfl
  | some item =>
      cases event.state with
      | none => rfl
      | some state =>
          cases state with
          | pressed =>
              ext other
              simp
          | released =>
              ext other
              simp [and_comm]
          | repeated => rfl

@[simp]
theorem press_pressed (item : HeldInput) (items : Finset HeldInput) :
    (item.event .pressed).press items = insert item items := by
  simp [InputEvent.press]

@[simp]
theorem press_released (item : HeldInput) (items : Finset HeldInput) :
    (item.event .released).press items = items.erase item := by
  simp [InputEvent.press]

section Fold

variable (down : Ledger Receiver HeldInput) (held : OrderedSet HeldInput)

/-- One event for each held input changes one receiver. -/
theorem fold_events {receiver : Receiver} {effect : InputEvent → SessionEffect}
    (folds : ∀ down event, (effect event).fold down =
      Function.update down receiver (event.press (down receiver))) (state : ButtonState) :
    (held.toList.map fun item => effect (item.event state)).foldl SessionEffect.fold down =
      Function.update down receiver
        (held.toList.foldl (fun items item => (item.event state).press items) (down receiver)) := by
  simp only [List.foldl_map, folds]
  exact Ledger.foldl_update receiver (fun (item : HeldInput) => (item.event state).press) down _

@[simp]
theorem fold_injectPressed :
    (DesktopSession.injectAll held .pressed).foldl SessionEffect.fold down =
      Function.update down .thisMachine (heldItems held ∪ down .thisMachine) := by
  rw [DesktopSession.injectAll, fold_events down held (fun _ _ => rfl)]
  simp only [press_pressed, Ledger.foldl_insert, heldItems]

@[simp]
theorem fold_injectReleased :
    (DesktopSession.injectAll held .released).foldl SessionEffect.fold down =
      Function.update down .thisMachine (down .thisMachine \ heldItems held) := by
  rw [DesktopSession.injectAll, fold_events down held (fun _ _ => rfl)]
  simp only [press_released, Ledger.foldl_erase, heldItems]

@[simp]
theorem fold_sendAll (screenId : ScreenId) :
    (DesktopSession.sendAll screenId held).foldl SessionEffect.fold down =
      Function.update down (.screen screenId) (heldItems held ∪ down (.screen screenId)) := by
  rw [DesktopSession.sendAll, fold_events down held (fun _ _ => rfl)]
  simp only [press_pressed, Ledger.foldl_insert, heldItems]

@[simp]
theorem fold_sendRemote :
    (held.toList.map fun item => SessionEffect.sendRemote (item.event .pressed)).foldl
        SessionEffect.fold down =
      Function.update down .peer (heldItems held ∪ down .peer) := by
  rw [fold_events down held (fun _ _ => rfl)]
  simp only [press_pressed, Ledger.foldl_insert, heldItems]

end Fold

/-! ## One step -/

namespace DesktopSession

variable {session next final : DesktopSession} {router nextRouter : TopologyRouter}
  {localScreen : ScreenId} {effects : List SessionEffect}

theorem remoteReceiver_of_screen (routes : session.router = some (.topology router localScreen)) :
    session.remoteReceiver =
      if router.active = localScreen then .peer else .screen router.active := by
  unfold remoteReceiver
  simp only [activeTopologyScreen, routes]
  split_ifs <;> simp_all

theorem remoteReceiver_of_none (notTopology : ∀ router localScreen,
    session.router ≠ some (.topology router localScreen)) : session.remoteReceiver = .peer := by
  unfold remoteReceiver activeTopologyScreen
  split
  · split at *
    · exact (notTopology _ _ ‹_›).elim
    · cases ‹_›
  · rfl

theorem remoteReceiver_ne (session : DesktopSession) : session.remoteReceiver ≠ .thisMachine := by
  unfold remoteReceiver
  split <;> simp

/-- A session that only changes on this machine. -/
theorem Directed.of_eq (directed : session.Directed) (role : next.role = session.role)
    (router : next.router = session.router) (control : next.control = session.control)
    (remote : next.remoteInjected = session.remoteInjected) : next.Directed := by
  constructor
  · rw [role, remote]
    exact directed.client
  · intro other localScreen routes
    obtain ⟨⟨_, follows⟩, atHome⟩ := directed.routed other localScreen (router ▸ routes)
    exact ⟨⟨routes, control ▸ follows⟩, by rwa [control, remote]⟩

/-- A step whose effects leave down what the next session has down. -/
structure Tracks (session : DesktopSession) (effects : List SessionEffect) (next : DesktopSession) :
    Prop where
  folds : effects.foldl SessionEffect.fold session.hasDown = next.hasDown
  directed : next.Directed
  role : next.role = session.role

/-- An event on this machine. -/
theorem Directed.injectLocal (directed : session.Directed) (event : InputEvent)
    (held : OrderedSet HeldInput) :
    session.Tracks [.injectLocal event] { session with
      physicalHeld := held, localInjected := observe session.localInjected event } where
  folds := by
    rw [List.foldl_cons, List.foldl_nil, SessionEffect.fold, hasDown, Ledger.shared_first,
      press_heldItems, Ledger.update_shared_first]
    rfl
  directed := directed.of_eq rfl rfl rfl rfl
  role := rfl

/-- An event on the remote receiver. -/
theorem Directed.sendEvent (directed : session.Directed) (event : InputEvent)
    (held : OrderedSet HeldInput) (host : session.role ≠ .client)
    (remote : session.control = .remoteControl) {effect : SessionEffect}
    (folds : ∀ down, effect.fold down = Function.update down session.remoteReceiver
      (event.press (down session.remoteReceiver))) :
    session.Tracks [effect] { session with
      physicalHeld := held, remoteInjected := observe session.remoteInjected event } where
  folds := by
    have different := session.remoteReceiver_ne
    rw [List.foldl_cons, List.foldl_nil, folds, hasDown, Ledger.shared_second different,
      press_heldItems, Ledger.update_shared_second different]
    rfl
  directed := by
    refine ⟨fun absurd => (host absurd).elim, fun router localScreen routes => ?_⟩
    obtain ⟨⟨_, follows⟩, _⟩ := directed.routed router localScreen routes
    exact ⟨⟨routes, follows⟩, fun absurd => by cases remote.symm.trans absurd⟩
  role := rfl

theorem Directed.handlePhysicalInput (directed : session.Directed) {event : InputEvent}
    (host : session.role ≠ .client)
    (handled : session.handlePhysicalInput event = (effects, next)) :
    session.Tracks effects next := by
  unfold DesktopSession.handlePhysicalInput at handled
  split_ifs at handled with orphan
  · obtain ⟨rfl, rfl⟩ := Prod.mk.inj handled
    exact ⟨rfl, directed, rfl⟩
  · cases control : session.control with
    | localControl =>
        simp only [control] at handled
        obtain ⟨rfl, rfl⟩ := Prod.mk.inj handled
        have tracks := directed.injectLocal event (observe session.physicalHeld event)
        rwa [control] at tracks
    | remoteControl =>
        simp only [control] at handled
        have tracks {effect : SessionEffect} := @Directed.sendEvent _ directed event
          (observe session.physicalHeld event) host control effect
        rw [control] at tracks
        split at handled
        · rename_i screenId active
          obtain ⟨rfl, rfl⟩ := Prod.mk.inj handled
          have receiver : session.remoteReceiver = .screen screenId := by
            have same : session.activeTopologyScreen = some screenId := active
            rw [remoteReceiver, same]
          exact tracks fun down => by rw [receiver]; rfl
        · rename_i active
          obtain ⟨rfl, rfl⟩ := Prod.mk.inj handled
          have receiver : session.remoteReceiver = .peer := by
            have same : session.activeTopologyScreen = none := active
            rw [remoteReceiver, same]
          exact tracks fun down => by rw [receiver]; rfl

/-- Releasing the screen under the cursor leaves nothing down but what is down on this machine. -/
theorem Directed.fold_releaseScreen (directed : session.Directed)
    (routes : session.router = some (.topology router localScreen)) (receiver : Receiver) :
    (SessionEffect.releaseScreen router.active).fold session.hasDown =
      Ledger.shared .thisMachine receiver (heldItems session.localInjected) ∅ := by
  have different := session.remoteReceiver_ne
  have receives := remoteReceiver_of_screen routes
  rw [SessionEffect.fold]
  split_ifs at receives with atHome
  · obtain ⟨routed, whenLocal⟩ := directed.routed router localScreen routes
    have control : session.control = .localControl := by
      cases control : session.control with
      | localControl => rfl
      | remoteControl => exact (routed.follows.mp control atHome).elim
    rw [hasDown, whenLocal control, heldItems_empty, Ledger.update_of_empty, Ledger.shared_empty]
    rw [receives]
    exact Ledger.shared_other (by simp) (by simp)
  · rw [hasDown, receives, Ledger.update_shared_second (by simp), Ledger.shared_empty]

theorem Directed.returnLocal (directed : session.Directed) (host : session.role ≠ .client)
    (routes : session.router = some (.topology router localScreen))
    (arrived : nextRouter.active = localScreen) {x y : Int}
    (returned : (effects, next) =
      session.returnLocal (.topology nextRouter localScreen) router.active x y) :
    session.Tracks effects next := by
  have released := directed.fold_releaseScreen routes .peer
  obtain ⟨rfl, sameNext⟩ := Prod.mk.inj returned
  have nextRoutes : next.router = some (.topology nextRouter localScreen) := by rw [sameNext]
  have receiver : next.remoteReceiver = .peer := by
    rw [remoteReceiver_of_screen nextRoutes, if_pos arrived]
  refine ⟨?_, ?_, by rw [sameNext]⟩
  · simp only [List.foldl_append, List.foldl_cons, List.foldl_nil, released, fold_injectPressed]
    simp only [SessionEffect.fold, Ledger.shared_first, Ledger.update_shared_first]
    rw [hasDown, receiver, sameNext, heldItems_insertAll]
    rfl
  · subst sameNext
    refine ⟨fun absurd => (host absurd).elim, fun other otherLocal same => ?_⟩
    obtain ⟨rfl, rfl⟩ : nextRouter = other ∧ localScreen = otherLocal := by simpa using same
    exact ⟨⟨rfl, by simp [arrived]⟩, fun _ => rfl⟩

theorem Directed.enterScreen (directed : session.Directed) (host : session.role ≠ .client)
    (routes : session.router = some (.topology router localScreen)) {screenId : ScreenId}
    (arrived : nextRouter.active = screenId) (away : screenId ≠ localScreen) {x y : Int}
    (entered : (effects, next) =
      { session with router := some (.topology nextRouter localScreen) }.enterScreen
        router.active screenId x y) :
    session.Tracks effects next := by
  have nextDirected (control : next.control = .remoteControl)
      (nextRoutes : next.router = some (.topology nextRouter localScreen))
      (role : next.role = session.role) : next.Directed := by
    refine ⟨fun absurd => (host (role ▸ absurd)).elim, fun other otherLocal same => ?_⟩
    obtain ⟨rfl, rfl⟩ : nextRouter = other ∧ localScreen = otherLocal := by
      simpa [nextRoutes] using same
    exact ⟨⟨nextRoutes, by simp [control, arrived, away]⟩,
      fun absurd => by cases control.symm.trans absurd⟩
  have receiver (nextRoutes : next.router = some (.topology nextRouter localScreen)) :
      next.remoteReceiver = .screen screenId := by
    rw [remoteReceiver_of_screen nextRoutes, arrived, if_neg away]
  have different : Receiver.screen screenId ≠ .thisMachine := by simp
  cases control : session.control with
  | remoteControl =>
      simp only [DesktopSession.enterScreen, control] at entered
      obtain ⟨rfl, sameNext⟩ := Prod.mk.inj entered
      have nextRoutes : next.router = some (.topology nextRouter localScreen) := by rw [sameNext]
      refine ⟨?_, nextDirected (by rw [sameNext]) nextRoutes (by rw [sameNext]), by rw [sameNext]⟩
      rw [List.foldl_cons, directed.fold_releaseScreen routes (.screen screenId), List.foldl_cons,
        SessionEffect.fold, fold_sendAll, Ledger.shared_second different,
        Ledger.update_shared_second different, hasDown, receiver nextRoutes, sameNext,
        heldItems_insertAll]
      rfl
  | localControl =>
      simp only [DesktopSession.enterScreen, control] at entered
      obtain ⟨rfl, sameNext⟩ := Prod.mk.inj entered
      have nextRoutes : next.router = some (.topology nextRouter localScreen) := by rw [sameNext]
      refine ⟨?_, nextDirected (by rw [sameNext]) nextRoutes (by rw [sameNext]), by rw [sameNext]⟩
      have nothing := (directed.routed router localScreen routes).2 control
      have emptied : (injectAll session.localInjected .released).foldl SessionEffect.fold
          session.hasDown = Ledger.shared .thisMachine (.screen screenId) ∅ ∅ := by
        rw [fold_injectReleased, hasDown, Ledger.shared_first, sdiff_self,
          Ledger.update_shared_first, nothing, heldItems_empty,
          Ledger.shared_empty _ _ (.screen screenId)]
        rfl
      simp only [List.foldl_append, List.foldl_cons, List.foldl_nil, emptied, fold_sendAll]
      simp only [SessionEffect.fold, Ledger.shared_second different,
        Ledger.update_shared_second different]
      rw [hasDown, receiver nextRoutes, sameNext, heldItems_insertAll, nothing]
      rfl

theorem Directed.swapRouter (directed : session.Directed)
    (routes : session.router = some (.topology router localScreen))
    (sameActive : nextRouter.active = router.active) :
    session.Tracks [] { session with router := some (.topology nextRouter localScreen) } := by
  obtain ⟨routed, whenLocal⟩ := directed.routed router localScreen routes
  refine ⟨?_, ?_, rfl⟩
  · have receiver : ({ session with router := some (.topology nextRouter localScreen) } :
        DesktopSession).remoteReceiver = session.remoteReceiver := by
      rw [remoteReceiver_of_screen rfl, remoteReceiver_of_screen routes, sameActive]
    rw [List.foldl_nil, hasDown, ← receiver]
    rfl
  · refine ⟨directed.client, fun other otherLocal same => ?_⟩
    obtain ⟨rfl, rfl⟩ : nextRouter = other ∧ localScreen = otherLocal := by simpa using same
    exact ⟨⟨rfl, sameActive ▸ routed.follows⟩, whenLocal⟩

/-- Taking a topology over releases the screen under the cursor when it gives that screen up. -/
theorem Directed.replaceTopology (directed : session.Directed) (host : session.role ≠ .client)
    {topology : ScreenTopology} (replaced : session.replaceTopology
        topology = .ok (effects, next)) :
    session.Tracks effects next := by
  cases routes : session.router with
  | none => simp [DesktopSession.replaceTopology, routes] at replaced
  | some router =>
      cases router with
      | legacy router => simp [DesktopSession.replaceTopology, routes] at replaced
      | topology router localScreen =>
          obtain ⟨_, _, nextRouter, _, lost | kept⟩ := replaceTopology_cases routes replaced
          · obtain ⟨_, _, arrived, x, y, returned⟩ := lost
            exact directed.returnLocal host routes arrived returned
          · obtain ⟨_, sameActive, rfl, rfl⟩ := kept
            exact directed.swapRouter routes sameActive

/-- A motion over a topology stays on the screen, comes home, or enters another screen. -/
theorem Directed.handleTopologyMotion (directed : session.Directed) (host : session.role ≠ .client)
    (routes : session.router = some (.topology router localScreen)) {motion : Motion}
    (handled : session.handlePhysicalMotion motion = .ok (effects, next)) :
    session.Tracks effects next := by
  obtain ⟨nextRouter, _, stayed | ⟨edge, target, x, y, _, arrived, home | away⟩⟩ :=
    handlePhysicalMotion_cases routes handled
  · obtain ⟨sameActive, rfl, rfl⟩ := stayed
    obtain ⟨folds, nextDirected, role⟩ := directed.swapRouter routes sameActive
    refine ⟨?_, nextDirected, role⟩
    split_ifs <;> exact folds
  · exact directed.returnLocal host routes (arrived.trans home.1) home.2
  · exact directed.enterScreen host routes arrived away.1 away.2

/-- A session for two screens has nothing down but on this machine and at its peer. -/
theorem hasDown_legacy {router : CursorRouter} (routes : session.router = some (.legacy router)) :
    session.hasDown = Ledger.shared .thisMachine .peer (heldItems session.localInjected)
      (heldItems session.remoteInjected) := by
  rw [hasDown, remoteReceiver_of_none (by simp [routes])]

/-- A motion between two screens stays on its side, or moves what is held to the other side. -/
theorem followLegacyRoute_tracks (host : session.role ≠ .client)
    {router nextRouter : CursorRouter} (routes : session.router = some (.legacy router))
    {motion : Motion} {route : Route}
    (followed : session.followLegacyRoute nextRouter motion route = (effects, next)) :
    session.Tracks effects next := by
  have nextDirected (nextRoutes : next.router = some (.legacy nextRouter))
      (role : next.role = session.role) : next.Directed :=
    ⟨fun absurd => (host (role ▸ absurd)).elim, fun _ _ same => by simp [nextRoutes] at same⟩
  have different : Receiver.peer ≠ .thisMachine := by simp
  have before := hasDown_legacy routes
  cases route with
  | localMotion dx dy =>
      obtain ⟨rfl, sameNext⟩ := Prod.mk.inj followed
      have nextRoutes : next.router = some (.legacy nextRouter) := by rw [← sameNext]
      refine ⟨?_, nextDirected nextRoutes (by rw [← sameNext]), by rw [← sameNext]⟩
      rw [hasDown_legacy nextRoutes, before, ← sameNext]
      rfl
  | remoteMotion dx dy =>
      obtain ⟨rfl, sameNext⟩ := Prod.mk.inj followed
      have nextRoutes : next.router = some (.legacy nextRouter) := by rw [← sameNext]
      refine ⟨?_, nextDirected nextRoutes (by rw [← sameNext]), by rw [← sameNext]⟩
      rw [hasDown_legacy nextRoutes, before, ← sameNext]
      rfl
  | enterRemote x y =>
      obtain ⟨rfl, sameNext⟩ := Prod.mk.inj followed
      have nextRoutes : next.router = some (.legacy nextRouter) := by rw [← sameNext]
      refine ⟨?_, nextDirected nextRoutes (by rw [← sameNext]), by rw [← sameNext]⟩
      simp only [List.foldl_append, List.foldl_cons, List.foldl_nil, fold_injectReleased, before,
        fold_sendRemote]
      simp only [SessionEffect.fold, Ledger.shared_first, sdiff_self, Ledger.update_shared_first,
        Ledger.shared_second different, Ledger.update_shared_second different]
      rw [hasDown_legacy nextRoutes, ← sameNext, heldItems_insertAll]
      rfl
  | enterLocal x y =>
      obtain ⟨rfl, sameNext⟩ := Prod.mk.inj followed
      have nextRoutes : next.router = some (.legacy nextRouter) := by rw [← sameNext]
      refine ⟨?_, nextDirected nextRoutes (by rw [← sameNext]), by rw [← sameNext]⟩
      simp only [List.foldl_append, List.foldl_cons, List.foldl_nil, before, SessionEffect.fold,
        Ledger.update_shared_second different]
      rw [fold_injectPressed, Ledger.shared_first, Ledger.update_shared_first,
        hasDown_legacy nextRoutes, ← sameNext, heldItems_insertAll]
      rfl

theorem Directed.handlePhysicalMotion (directed : session.Directed) (host : session.role ≠ .client)
    {motion : Motion} (handled : session.handlePhysicalMotion motion = .ok (effects, next)) :
    session.Tracks effects next := by
  cases routes : session.router with
  | none =>
      simp only [DesktopSession.handlePhysicalMotion, routes, Outcome.ok.injEq,
        Prod.mk.injEq] at handled
      obtain ⟨rfl, rfl⟩ := handled
      exact ⟨rfl, directed, rfl⟩
  | some router =>
      cases router with
      | topology router localScreen => exact directed.handleTopologyMotion host routes handled
      | legacy router =>
          simp only [DesktopSession.handlePhysicalMotion, routes, Outcome.bind_eq_ok,
            Outcome.pure_eq, Outcome.ok.injEq] at handled
          obtain ⟨_, _, followed⟩ := handled
          exact followLegacyRoute_tracks host routes followed

/-- Everything is given back. -/
theorem Directed.releaseInjected (directed : session.Directed)
    (released : session.releaseInjected = (effects, next)) :
    session.Tracks effects next ∧ next.localInjected = ∅ ∧ next.remoteInjected = ∅ := by
  have emptied : (injectAll session.localInjected .released).foldl SessionEffect.fold
      session.hasDown = Ledger.shared .thisMachine session.remoteReceiver ∅
        (heldItems session.remoteInjected) := by
    rw [fold_injectReleased, hasDown, Ledger.shared_first, sdiff_self, Ledger.update_shared_first]
    rfl
  have nextDirected (role : next.role = session.role) (router : next.router = session.router)
      (control : next.control = session.control) (nothing : next.remoteInjected = ∅) :
      next.Directed := by
    refine ⟨fun _ => nothing, fun other localScreen routes => ?_⟩
    obtain ⟨⟨_, follows⟩, _⟩ := directed.routed other localScreen (router ▸ routes)
    exact ⟨⟨routes, control ▸ follows⟩, fun _ => nothing⟩
  have down (router : next.router = session.router) (nothing : next.localInjected = ∅)
      (gone : next.remoteInjected = ∅) :
      next.hasDown = Ledger.shared .thisMachine session.remoteReceiver ∅ ∅ := by
    have receiver : next.remoteReceiver = session.remoteReceiver := by
      simp only [remoteReceiver, activeTopologyScreen, router]
    rw [hasDown, nothing, gone, receiver]
    rfl
  unfold DesktopSession.releaseInjected at released
  split_ifs at released with held
  · obtain ⟨sameEffects, sameNext⟩ := Prod.mk.inj released
    refine ⟨⟨?_, ?_, by rw [← sameNext]⟩, by rw [← sameNext], by rw [← sameNext]⟩
    · rw [← sameEffects, List.foldl_append, emptied,
        down (by rw [← sameNext]) (by rw [← sameNext]) (by rw [← sameNext])]
      have different := session.remoteReceiver_ne
      have receiver : session.remoteReceiver =
          match session.activeTopologyScreen with
          | some screenId => .screen screenId
          | none => .peer := rfl
      cases active : session.activeTopologyScreen with
      | none =>
          simp only [active] at receiver
          rw [receiver] at different ⊢
          exact Ledger.update_shared_second different ∅
      | some screenId =>
          simp only [active] at receiver
          rw [receiver] at different ⊢
          exact Ledger.update_shared_second different ∅
    · exact nextDirected (by rw [← sameNext]) (by rw [← sameNext]) (by rw [← sameNext])
        (by rw [← sameNext])
  · have nothing : session.remoteInjected = ∅ := by
      by_contra some
      cases role : session.role with
      | host => exact held ⟨role, some⟩
      | client => exact some (directed.client role)
    obtain ⟨rfl, rfl⟩ := Prod.mk.inj released
    refine ⟨⟨?_, nextDirected rfl rfl rfl nothing, rfl⟩, rfl, nothing⟩
    rw [emptied, down rfl rfl nothing, nothing]
    rfl

/-- A session with nothing injected has nothing to release. -/
theorem releaseInjected_of_empty (localEmpty : session.localInjected = ∅)
    (remoteEmpty : session.remoteInjected = ∅) : session.releaseInjected = ([], session) := by
  unfold releaseInjected
  rw [if_neg (fun held => held.2 remoteEmpty), localEmpty]
  obtain ⟨_, _, _, _, _, _, _⟩ := session
  simp_all [injectAll]

theorem handle_of_isRelease {event : SessionEvent} (release : event.IsRelease) :
    session.handle event = .ok session.releaseInjected := by
  rcases release with rfl | rfl | rfl <;> rfl

/-! ## Whole runs -/

/-- The session has down what the effects so far have left down. -/
def Records (role : SessionRole) (session : DesktopSession) (down : Ledger Receiver HeldInput) :
    Prop :=
  session.role = role ∧ session.Directed ∧ down = session.hasDown

theorem Directed.drive (directed : session.Directed) {input : SessionInput}
    (received : session.role.Receives input) (driven : session.drive input = .ok (effects, next)) :
    session.Tracks effects next := by
  cases input with
  | replaceTopology topology =>
      exact directed.replaceTopology (by rw [received]; simp) driven
  | event event =>
      cases event with
      | physicalInput input =>
          exact directed.handlePhysicalInput (by rw [received]; simp) (Outcome.ok.inj driven)
      | physicalMotion motion =>
          exact directed.handlePhysicalMotion (by rw [received]; simp) driven
      | remoteInput input =>
          obtain ⟨rfl, rfl⟩ := Prod.mk.inj (Outcome.ok.inj driven)
          exact directed.injectLocal input session.physicalHeld
      | remoteMotion motion =>
          simp only [DesktopSession.drive, handle] at driven
          split_ifs at driven
          · obtain ⟨rfl, rfl⟩ := Prod.mk.inj (Outcome.ok.inj driven)
            exact ⟨rfl, directed, rfl⟩
          · obtain ⟨rfl, rfl⟩ := Prod.mk.inj (Outcome.ok.inj driven)
            exact ⟨rfl, directed.of_eq rfl rfl rfl rfl, rfl⟩
      | enterRemote x y =>
          obtain ⟨rfl, rfl⟩ := Prod.mk.inj (Outcome.ok.inj driven)
          exact ⟨rfl, directed, rfl⟩
      | releaseRemote => exact (directed.releaseInjected (Outcome.ok.inj driven)).1
      | peerDisconnected => exact (directed.releaseInjected (Outcome.ok.inj driven)).1
      | stopRequested => exact (directed.releaseInjected (Outcome.ok.inj driven)).1

/-- A session starts with nothing down. -/
theorem Starts.records (starts : Starts session) :
    session.Records session.role fun _ => ∅ := by
  have nothing (receiver : Receiver) : (fun _ => ∅ : Ledger Receiver HeldInput) =
      Ledger.shared .thisMachine receiver ∅ ∅ := (Ledger.shared_empty_empty _ _).symm
  cases starts with
  | client =>
      exact ⟨rfl, ⟨fun _ => rfl, fun _ _ absurd => by cases absurd⟩, nothing _⟩
  | host localSize remoteSize direction =>
      refine ⟨rfl, ⟨fun _ => rfl, fun _ _ absurd => ?_⟩, nothing _⟩
      simp [DesktopSession.host] at absurd
  | hostTopology topology localScreen x y session built =>
      obtain ⟨_, _, router, _, atHome, rfl⟩ := hostTopology_eq_ok built
      refine ⟨rfl, ⟨fun _ => rfl, fun other otherLocal routes => ?_⟩, nothing _⟩
      obtain ⟨rfl, rfl⟩ : router = other ∧ localScreen = otherLocal := by simpa using routes
      exact ⟨⟨rfl, by simp [atHome]⟩, fun _ => rfl⟩

/-- After every run of a session of either role, releasing leaves nothing down anywhere, and
releasing again asks for nothing. -/
theorem release_leaves_nothing_down {inputs : List SessionInput} {release : SessionEvent}
    (starts : Starts session) (received : ∀ input ∈ inputs, session.role.Receives input)
    (ran : Machine.run drive session inputs = .ok (effects, final))
    (isRelease : release.IsRelease) :
    ∃ released next, final.handle release = .ok (released, next) ∧
      (∀ receiver, leftDown (effects ++ released) receiver = ∅) ∧
      ∀ again : SessionEvent, again.IsRelease → next.handle again = .ok ([], next) := by
  have records : final.Records session.role (leftDown effects) :=
    Machine.run_folds
      (fun records received driven => by
        obtain ⟨sameRole, directed, rfl⟩ := records
        obtain ⟨folds, nextDirected, role⟩ := directed.drive (sameRole ▸ received) driven
        exact ⟨role.trans sameRole, nextDirected, folds⟩)
      starts.records received ran
  obtain ⟨_, directed, down⟩ := records
  rcases asked : final.releaseInjected with ⟨released, next⟩
  obtain ⟨tracks, localEmpty, remoteEmpty⟩ := directed.releaseInjected asked
  refine ⟨released, next, by rw [handle_of_isRelease isRelease, asked], fun receiver => ?_,
    fun again isRelease => ?_⟩
  · rw [leftDown, List.foldl_append, ← leftDown, down, tracks.folds, hasDown, localEmpty,
      remoteEmpty, heldItems_empty, Ledger.shared_empty_empty]
  · rw [handle_of_isRelease isRelease, releaseInjected_of_empty localEmpty remoteEmpty]

/-- A key goes down, the cursor crosses, a peer presses a button here, and the session stops. -/
theorem release_leaves_nothing_down_away :
    ∃ session effects final released next,
      hostTopology (sampleTopology true) ⟨"local"⟩ 99 50 = .ok session ∧
        Machine.run drive session
          [.event (.physicalInput (.key ⟨30⟩ .pressed)),
            .event (.physicalMotion ⟨1, 1000000, 8, 0⟩),
            .event (.physicalMotion ⟨2, 1250000, 1, 0⟩),
            .event (.remoteInput (.button .left .pressed))] = .ok (effects, final) ∧
        final.handle .stopRequested = .ok (released, next) ∧
        (∀ receiver, leftDown (effects ++ released) receiver = ∅) ∧
        ∀ again : SessionEvent, again.IsRelease → next.handle again = .ok ([], next) := by
  obtain ⟨session, built⟩ :
      ∃ session, hostTopology (sampleTopology true) ⟨"local"⟩ 99 50 = .ok session := ⟨_, rfl⟩
  obtain ⟨effects, final, ran⟩ : ∃ effects final, Machine.run drive session
      [.event (.physicalInput (.key ⟨30⟩ .pressed)), .event (.physicalMotion ⟨1, 1000000, 8, 0⟩),
        .event (.physicalMotion ⟨2, 1250000, 1, 0⟩),
        .event (.remoteInput (.button .left .pressed))] = .ok (effects, final) := by
    obtain rfl := Outcome.ok.inj built
    exact ⟨_, _, rfl⟩
  have role : session.role = .host := by
    obtain rfl := Outcome.ok.inj built
    rfl
  have received : ∀ input ∈ [SessionInput.event (.physicalInput (.key ⟨30⟩ .pressed)),
      .event (.physicalMotion ⟨1, 1000000, 8, 0⟩), .event (.physicalMotion ⟨2, 1250000, 1, 0⟩),
      .event (.remoteInput (.button .left .pressed))], session.role.Receives input := by
    simp [SessionRole.Receives, role]
  obtain ⟨released, next, given, nothing, again⟩ := release_leaves_nothing_down
    (.hostTopology _ _ _ _ _ built) received ran (Or.inr (Or.inr rfl))
  exact ⟨session, effects, final, released, next, built, ran, given, nothing, again⟩

end DesktopSession
end Rflow
