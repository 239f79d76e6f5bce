import Rflow.Core.Addressing

/-!
# Screens of this machine

A session knows one local screen, while its topology can hold several screens of this machine.  It
sends to other machines only, and keeps control while the cursor is on a screen of this machine,
exactly when the cursor reaches such screens by coming home.
-/

namespace Rflow

open Foundation

namespace ScreenTopology

/-- The screen belongs to this machine. -/
def Own (topology : ScreenTopology) (id : ScreenId) : Prop :=
  (topology.find id).any ScreenNode.thisDevice = true

/-- The screen belongs to another machine. -/
def Foreign (topology : ScreenTopology) (id : ScreenId) : Prop :=
  (topology.find id).any (fun node => !node.thisDevice) = true

instance (topology : ScreenTopology) (id : ScreenId) : Decidable (topology.Own id) :=
  inferInstanceAs (Decidable (_ = true))

/-- A screen of the topology is foreign unless it is one's own. -/
theorem foreign_iff_not_own {topology : ScreenTopology} {id : ScreenId}
    (listed : (topology.find id).isSome) : topology.Foreign id ↔ ¬ topology.Own id := by
  obtain ⟨node, found⟩ := Option.isSome_iff_exists.mp listed
  simp [Foreign, Own, found]

theorem Online.isSome_find {topology : ScreenTopology} {id : ScreenId}
    (online : topology.Online id) : (topology.find id).isSome :=
  Option.isSome_of_any online

end ScreenTopology

/-- An effect that addresses screens of other machines only. -/
def SessionEffect.ForForeign (topology : ScreenTopology) (effect : SessionEffect) : Prop :=
  effect.Within topology.Foreign topology.Foreign

/-- Direct input or a motion. -/
def SessionEvent.IsPhysical (event : SessionEvent) : Prop :=
  (∃ input, event = .physicalInput input) ∨ ∃ motion, event = .physicalMotion motion

namespace DesktopSession

variable {session next : DesktopSession} {router : TopologyRouter} {localScreen : ScreenId}
  {topology : ScreenTopology} {effects : List SessionEffect}

/-- Control is local while the cursor is on a screen of this machine. -/
def ControlsOwn (session : DesktopSession) : Prop :=
  ∀ router localScreen, session.router = some (.topology router localScreen) →
    router.topology.Own router.active → session.control = .localControl

/-- A motion takes the cursor to a screen of this machine only by coming home from another
screen. -/
def ComesHome (session : DesktopSession) : SessionEvent → Prop
  | .physicalMotion motion => ∀ router localScreen target,
      session.Crosses motion router localScreen target → router.topology.Own target →
        target = localScreen ∧ router.active ≠ localScreen
  | _ => True

/-- Returning control addresses the screen that it leaves. -/
theorem returnLocal_within_iff {nextRouter : HostRouter} {previous : ScreenId} {x y : Int}
    {Sent Released : ScreenId → Prop}
    (returned : (effects, next) = session.returnLocal nextRouter previous x y) :
    (∀ effect ∈ effects, effect.Within Sent Released) ↔ Released previous := by
  constructor
  · intro within
    obtain ⟨rfl, _⟩ := Prod.mk.inj returned
    exact within (.releaseScreen previous) (by simp)
  · exact fun released => returnLocal_within released returned

/-- Entering a screen addresses it, and the screen that it leaves when control was remote. -/
theorem enterScreen_within_iff {previous screenId : ScreenId} {x y : Int}
    {Sent Released : ScreenId → Prop}
    (entered : (effects, next) = session.enterScreen previous screenId x y) :
    (∀ effect ∈ effects, effect.Within Sent Released) ↔
      Sent screenId ∧ (session.control = .remoteControl → Released previous) := by
  constructor
  · intro within
    have enters : .enterScreen screenId x y ∈ effects := by
      rw [show effects = (session.enterScreen previous screenId x y).1 from
        congrArg Prod.fst entered]
      cases control : session.control <;> simp [enterScreen, control]
    refine ⟨within _ enters, fun control => ?_⟩
    simp only [enterScreen, control] at entered
    obtain ⟨rfl, _⟩ := Prod.mk.inj entered
    exact within (.releaseScreen previous) List.mem_cons_self
  · rintro ⟨sent, released⟩
    exact enterScreen_within sent released entered

/-- Whatever route it follows, the session routes with the router that gave the route. -/
@[simp]
theorem followRoute_router (session : DesktopSession) (router : TopologyRouter)
    (localScreen previous : ScreenId) (motion : Motion) (route : TopologyRoute) :
    (session.followRoute router localScreen previous motion route).2.router =
      some (.topology router localScreen) := by
  cases route with
  | stay screenId dx dy =>
      simp only [followRoute]
      split_ifs <;> rfl
  | cross screenId x y =>
      simp only [followRoute]
      split_ifs
      · rfl
      · exact enterScreen_router ..

theorem Routed.controlsOwn_iff (routed : session.Routed router localScreen) :
    session.ControlsOwn ↔ (router.topology.Own router.active → router.active = localScreen) := by
  have atHome : session.control = .localControl ↔ router.active = localScreen := by
    cases control : session.control with
    | localControl => simpa [control] using routed.follows
    | remoteControl => simpa [control] using routed.follows
  constructor
  · exact fun controls own => atHome.mp (controls router localScreen routed.routes own)
  · intro home other otherLocal routes own
    obtain ⟨rfl, rfl⟩ : router = other ∧ localScreen = otherLocal := by
      simpa [routed.routes] using routes
    exact atHome.mpr (home own)

/-- Direct input goes to the screen under the cursor. -/
theorem Oriented.physicalInput_forForeign (oriented : session.Oriented topology localScreen)
    (controls : session.ControlsOwn) {event : InputEvent}
    (handled : session.handlePhysicalInput event = (effects, next)) :
    next.ControlsOwn ∧ ∀ effect ∈ effects, effect.ForForeign topology := by
  obtain ⟨router, synced, rfl, online⟩ := oriented
  have home := synced.controlsOwn_iff.mp controls
  constructor
  · obtain ⟨_, nextSynced⟩ := synced.handlePhysicalInput handled.symm
    exact nextSynced.controlsOwn_iff.mpr home
  · intro effect member
    refine (synced.handlePhysicalInput_within handled effect member).mono ?_ fun _ => False.elim
    rintro screenId ⟨active, _⟩
    obtain ⟨away, rfl⟩ := (activeTopologyScreen_eq_some synced.routes).mp active
    exact (ScreenTopology.foreign_iff_not_own (online away).isSome_find).mpr
      fun own => away (home own)

theorem Routed.comesHome_iff (routed : session.Routed router localScreen) {motion : Motion} :
    session.ComesHome (.physicalMotion motion) ↔
      ∀ target, session.Crosses motion router localScreen target → router.topology.Own target →
        target = localScreen ∧ router.active ≠ localScreen := by
  constructor
  · exact fun comes target => comes router localScreen target
  · rintro comes other otherLocal target ⟨routes, crosses⟩
    obtain ⟨rfl, rfl⟩ : router = other ∧ localScreen = otherLocal := by
      simpa [routed.routes] using routes
    exact comes target ⟨routes, crosses⟩

theorem Routed.crosses_iff (routed : session.Routed router localScreen) {motion : Motion}
    {route : TopologyRoute} {later : TopologyRouter} {target : ScreenId}
    (moved : router.routeMotionAt motion.dx motion.dy motion.timestampMicros = .ok (route, later)) :
    session.Crosses motion router localScreen target ↔ ∃ x y, route = .cross target x y := by
  simp only [Crosses, routed.routes, true_and]
  constructor
  · rintro ⟨x, y, _, again⟩
    exact ⟨x, y, (Prod.mk.inj (Outcome.ok.inj (moved.symm.trans again))).1⟩
  · rintro ⟨x, y, rfl⟩
    exact ⟨x, y, later, moved⟩

/-- A motion keeps to its machine exactly when it comes home to it. -/
theorem Oriented.physicalMotion_iff (oriented : session.Oriented topology localScreen)
    (listed : (topology.find localScreen).isSome) (controls : session.ControlsOwn) {motion : Motion}
    (handled : session.handlePhysicalMotion motion = .ok (effects, next))
    (nextOriented : next.Oriented topology localScreen) :
    (next.ControlsOwn ∧ ∀ effect ∈ effects, effect.ForForeign topology) ↔
      session.ComesHome (.physicalMotion motion) := by
  obtain ⟨router, synced, rfl, online⟩ := oriented
  obtain ⟨later, nextSynced, sameTopology, _⟩ := nextOriented
  have home := synced.controlsOwn_iff.mp controls
  have activeListed : (router.topology.find router.active).isSome := by
    by_cases atHome : router.active = localScreen
    · rwa [atHome]
    · exact (online atHome).isSome_find
  have foreignAway (away : router.active ≠ localScreen) : router.topology.Foreign router.active :=
    (ScreenTopology.foreign_iff_not_own activeListed).mpr fun own => away (home own)
  rw [nextSynced.controlsOwn_iff, sameTopology]
  have moved := handled
  simp only [DesktopSession.handlePhysicalMotion, synced.routes, Outcome.bind_eq_ok,
    Outcome.pure_eq, Outcome.ok.injEq] at moved
  obtain ⟨⟨route, nextRouter⟩, moved, followed⟩ := moved
  obtain rfl : later = nextRouter := by
    have routes := congrArg (fun result => result.2.router) followed
    simpa [nextSynced.routes] using routes.symm
  rw [synced.comesHome_iff]
  simp only [synced.crosses_iff moved]
  obtain ⟨_, ⟨rfl, sameActive⟩ | ⟨_, target, x, y, linked, rfl, arrived⟩⟩ :=
    TopologyRouter.routeMotionInner_cases moved
  · refine iff_of_true ⟨by rwa [sameActive], ?_⟩ (by simp)
    simp only [followRoute] at followed
    split_ifs at followed with atHome
    · obtain ⟨rfl, _⟩ := Prod.mk.inj followed
      exact List.forall_mem_singleton.mpr trivial
    · obtain ⟨rfl, _⟩ := Prod.mk.inj followed
      exact List.forall_mem_singleton.mpr (foreignAway atHome)
  · have targetListed := TopologyRouter.isSome_find_of_linkedEdge linked
    have only (Property : ScreenId → Prop) : (∀ other, (∃ otherX otherY,
        TopologyRoute.cross target.screenId x y = .cross other otherX otherY) → Property other) ↔
          Property target.screenId := by
      constructor
      · exact fun every => every target.screenId ⟨x, y, rfl⟩
      · rintro holds other ⟨_, _, same⟩
        obtain ⟨rfl, _, _⟩ := TopologyRoute.cross.inj same
        exact holds
    rw [only, arrived]
    simp only [followRoute] at followed
    unfold SessionEffect.ForForeign
    split_ifs at followed with atHome
    · rw [returnLocal_within_iff followed.symm, atHome]
      constructor
      · rintro ⟨_, foreign⟩ own
        refine ⟨rfl, fun active => ?_⟩
        exact (ScreenTopology.foreign_iff_not_own activeListed).mp foreign (active ▸ own)
      · intro comes
        refine ⟨fun _ => rfl, (ScreenTopology.foreign_iff_not_own activeListed).mpr fun own => ?_⟩
        exact (comes (home own ▸ own)).2 (home own)
    · rw [enterScreen_within_iff followed.symm, ScreenTopology.foreign_iff_not_own targetListed]
      constructor
      · rintro ⟨_, foreign, _⟩ own
        exact (foreign own).elim
      · intro comes
        refine ⟨fun own => (comes own).1, fun own => atHome (comes own).1, fun remote => ?_⟩
        exact foreignAway (synced.follows.mp remote)

/-- Along every run of direct input and motions, a session addresses screens of other machines only
and keeps control on the screens of its own, exactly when the cursor reaches these by coming
home. -/
theorem local_screens_stay_local_iff {x y : Int} {events : List SessionEvent}
    {final : DesktopSession} (built : hostTopology topology localScreen x y = .ok session)
    (physical : ∀ event ∈ events, event.IsPhysical)
    (ran : Machine.run handle session events = .ok (effects, final)) :
    (Machine.Throughout handle ControlsOwn session events ∧
        ∀ effect ∈ effects, effect.ForForeign topology) ↔
      Machine.Along handle ComesHome session events := by
  have oriented := oriented_hostTopology built
  obtain ⟨_, listed, router, _, atHome, rfl⟩ := hostTopology_eq_ok built
  have kept {state next : DesktopSession} {event : SessionEvent} {effects : List SessionEffect}
      (oriented : state.Oriented topology localScreen) (controls : state.ControlsOwn)
      (isPhysical : event.IsPhysical) (handled : state.handle event = .ok (effects, next)) :
      next.Oriented topology localScreen ∧
        ((next.ControlsOwn ∧ ∀ effect ∈ effects, effect.ForForeign topology) ↔
          state.ComesHome event) := by
    have nextOriented := oriented.handle isPhysical handled
    refine ⟨nextOriented, ?_⟩
    rcases isPhysical with ⟨input, rfl⟩ | ⟨motion, rfl⟩
    · exact iff_of_true (oriented.physicalInput_forForeign controls
        (Outcome.ok.inj handled)) trivial
    · exact oriented.physicalMotion_iff listed controls handled nextOriented
  refine Machine.outputs_iff_along kept oriented ?_ physical ran
  exact fun _ _ _ _ => rfl

/-- A topology in which links join screens of other machines with each other and with one screen of
this machine only. -/
def OnlyLocal (topology : ScreenTopology) (localScreen : ScreenId) : Prop :=
  ∀ link ∈ topology.links,
    (topology.Own link.fromEdge.screenId →
        link.fromEdge.screenId = localScreen ∧ link.toEdge.screenId ≠ localScreen) ∧
      (topology.Own link.toEdge.screenId →
        link.toEdge.screenId = localScreen ∧ link.fromEdge.screenId ≠ localScreen)

/-- With one linked screen of this machine the cursor always reaches it by coming home. -/
theorem OnlyLocal.comesHome (only : OnlyLocal topology localScreen)
    (oriented : session.Oriented topology localScreen) (event : SessionEvent) :
    session.ComesHome event := by
  obtain ⟨router, synced, rfl, _⟩ := oriented
  cases event with
  | physicalMotion motion =>
      rintro other otherLocal target ⟨routes, _, _, _, moved⟩ own
      obtain ⟨rfl, rfl⟩ : router = other ∧ localScreen = otherLocal := by
        simpa [synced.routes] using routes
      obtain ⟨_, ⟨absurd, _⟩ | ⟨edge, far, _, _, linked, crossed, _⟩⟩ :=
        TopologyRouter.routeMotionInner_cases moved
      · cases absurd
      · obtain ⟨rfl, _, _⟩ := TopologyRoute.cross.inj crossed
        obtain ⟨_, link, member, ⟨leaving, rfl⟩ | ⟨entering, rfl⟩⟩ :=
          TopologyRouter.linkedEdge_eq_some linked
        · obtain ⟨home, away⟩ := (only link member).2 own
          exact ⟨home, by rwa [leaving] at away⟩
        · obtain ⟨home, away⟩ := (only link member).1 own
          exact ⟨home, by rwa [entering] at away⟩
  | _ => trivial

theorem OnlyLocal.along (only : OnlyLocal topology localScreen) {x y : Int}
    {events : List SessionEvent} (built : hostTopology topology localScreen x y = .ok session)
    (physical : ∀ event ∈ events, event.IsPhysical) :
    Machine.Along handle ComesHome session events := by
  have comesHome {state : DesktopSession} {event : SessionEvent}
      (oriented : state.Oriented topology localScreen) (_ : event.IsPhysical) :
      state.ComesHome event := only.comesHome oriented event
  exact .of_invariant comesHome (fun oriented physical handled => oriented.handle physical handled)
    (oriented_hostTopology built) (.of_forall physical)

/-- The cursor crosses to another machine, waits at its edge and comes back. -/
def sampleRoundTrip : List SessionEvent :=
  [.physicalMotion ⟨1, 1000000, 8, 0⟩, .physicalMotion ⟨2, 1250000, 1, 0⟩,
    .physicalMotion ⟨3, 1260000, -1, 0⟩, .physicalMotion ⟨4, 1270000, -1, 0⟩,
    .physicalMotion ⟨5, 1510000, -1, 0⟩]

/-- Two screens of this machine side by side. -/
def sampleBeside : ScreenTopology where
  revision := 0
  screens := [sampleNode "local" "host" true true, sampleNode "beside" "host" true true]
  links := [sampleLink "local" "beside"]

/-- With one local screen, a round trip addresses the other machine only. -/
theorem local_screens_stay_local_round_trip :
    ∃ session effects final,
      hostTopology (sampleTopology true) ⟨"local"⟩ 99 50 = .ok session ∧
        Machine.run handle session sampleRoundTrip = .ok (effects, final) ∧
        Machine.Throughout handle ControlsOwn session sampleRoundTrip ∧
        ∀ effect ∈ effects, effect.ForForeign (sampleTopology true) := by
  obtain ⟨session, built⟩ :
      ∃ session, hostTopology (sampleTopology true) ⟨"local"⟩ 99 50 = .ok session := ⟨_, rfl⟩
  obtain ⟨effects, final, ran⟩ :
      ∃ effects final, Machine.run handle session sampleRoundTrip = .ok (effects, final) := by
    obtain rfl := Outcome.ok.inj built
    exact ⟨_, _, rfl⟩
  have physical : ∀ event ∈ sampleRoundTrip, event.IsPhysical := by
    simp [sampleRoundTrip, SessionEvent.IsPhysical]
  have only : OnlyLocal (sampleTopology true) ⟨"local"⟩ := by
    intro link member
    obtain rfl := List.mem_singleton.mp member
    decide
  exact ⟨session, effects, final, built, ran,
    (local_screens_stay_local_iff built physical ran).mpr (only.along built physical)⟩

/-- The cursor crosses between two screens of this machine: the second one is entered like a screen
of another machine, and control turns remote. -/
theorem second_local_screen_is_remote :
    ∃ session effects final,
      hostTopology sampleBeside ⟨"local"⟩ 99 50 = .ok session ∧
        sampleBeside.validate = .ok () ∧
        Machine.run handle session [.physicalMotion ⟨1, 1000000, 8, 0⟩,
          .physicalMotion ⟨2, 1250000, 1, 0⟩] = .ok (effects, final) ∧
        .enterScreen ⟨"beside"⟩ 1 50 ∈ effects ∧ sampleBeside.Own ⟨"beside"⟩ ∧
        ¬ (∀ effect ∈ effects, effect.ForForeign sampleBeside) ∧ ¬ final.ControlsOwn := by
  obtain ⟨session, built⟩ :
      ∃ session, hostTopology sampleBeside ⟨"local"⟩ 99 50 = .ok session := ⟨_, rfl⟩
  obtain ⟨effects, final, ran, enters, routes, control⟩ : ∃ effects final,
      Machine.run handle session [.physicalMotion ⟨1, 1000000, 8, 0⟩,
        .physicalMotion ⟨2, 1250000, 1, 0⟩] = .ok (effects, final) ∧
      .enterScreen ⟨"beside"⟩ 1 50 ∈ effects ∧
      (∃ router : TopologyRouter, final.router = some (.topology router ⟨"local"⟩) ∧
        router.topology.Own router.active) ∧ final.control = .remoteControl := by
    obtain rfl := Outcome.ok.inj built
    exact ⟨_, _, rfl, by decide, ⟨_, rfl, rfl⟩, rfl⟩
  obtain ⟨router, routes, own⟩ := routes
  refine ⟨session, effects, final, built, rfl, ran, enters, rfl, fun foreign => ?_,
    fun controls => ?_⟩
  · exact Bool.false_ne_true (foreign _ enters)
  · cases control.symm.trans (controls router ⟨"local"⟩ routes own)

end DesktopSession
end Rflow
