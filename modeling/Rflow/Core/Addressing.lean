import Rflow.Core.Recovery

/-!
# Whom the effects of a session are for

Which screens a session sends to and which it releases, and when it can take a topology over.
-/

namespace Rflow

open Foundation

/-- An effect on this machine, or one that is sent to a screen or releases a screen with a
property. -/
def SessionEffect.Within (Sent Released : ScreenId → Prop) : SessionEffect → Prop
  | .sendScreen screenId _ | .sendScreenMotion screenId _ | .enterScreen screenId _ _ =>
      Sent screenId
  | .releaseScreen screenId => Released screenId
  | .sendRemote _ | .sendRemoteMotion _ | .enterRemote .. | .releaseRemote => False
  | .injectLocal _ | .injectLocalMotion .. | .setLocalCursor .. | .controlChanged _ => True

theorem SessionEffect.Within.mono {Sent Released Sent' Released' : ScreenId → Prop}
    {effect : SessionEffect} (within : effect.Within Sent Released)
    (sent : ∀ screenId, Sent screenId → Sent' screenId)
    (released : ∀ screenId, Released screenId → Released' screenId) :
    effect.Within Sent' Released' := by
  cases effect with
  | sendScreen | sendScreenMotion | enterScreen => exact sent _ within
  | releaseScreen => exact released _ within
  | _ => exact within

namespace DesktopSession

/-- A motion makes the cursor cross from the active screen of a router to a target. -/
def Crosses (session : DesktopSession) (motion : Motion) (router : TopologyRouter)
    (localScreen target : ScreenId) : Prop :=
  session.router = some (.topology router localScreen) ∧
    ∃ x y next, router.routeMotionAt motion.dx motion.dy motion.timestampMicros =
      .ok (.cross target x y, next)

/-- An event is sent to a screen: to the remote one under the cursor, or to the one that the cursor
crosses to. -/
def Sends (session : DesktopSession) : SessionEvent → ScreenId → Prop
  | .physicalInput event, screenId =>
      session.activeTopologyScreen = some screenId ∧ session.orphanRepeat event = false
  | .physicalMotion motion, screenId =>
      session.activeTopologyScreen = some screenId ∨
        ∃ router localScreen, session.Crosses motion router localScreen screenId ∧
          screenId ≠ localScreen
  | _, _ => False

/-- An event releases a screen: the cursor leaves it, or the session stops while inputs are held
there. -/
def Releases (session : DesktopSession) : SessionEvent → ScreenId → Prop
  | .physicalMotion motion, screenId =>
      ∃ router localScreen target, session.Crosses motion router localScreen target ∧
        screenId = router.active ∧ (target = localScreen ∨ router.active ≠ localScreen)
  | .stopRequested, screenId =>
      session.activeTopologyScreen = some screenId ∧ session.remoteInjected ≠ ∅
  | _, _ => False

variable {session next : DesktopSession} {router : TopologyRouter} {localScreen : ScreenId}
  {topology : ScreenTopology} {effects : List SessionEffect}

/-- The screen under the cursor, when it is not the local one. -/
theorem activeTopologyScreen_eq_some (routes : session.router = some (.topology router localScreen))
    {screenId : ScreenId} :
    session.activeTopologyScreen = some screenId ↔
      router.active ≠ localScreen ∧ screenId = router.active := by
  simp only [activeTopologyScreen, routes]
  split_ifs with away
  · simp [away, eq_comm]
  · simp [away]

theorem injectAll_within {held : OrderedSet HeldInput} {state : ButtonState}
    {Sent Released : ScreenId → Prop} :
    ∀ effect ∈ injectAll held state, effect.Within Sent Released := by
  intro effect member
  obtain ⟨item, _, rfl⟩ := List.mem_map.mp member
  trivial

theorem sendAll_within {held : OrderedSet HeldInput} {screenId : ScreenId}
    {Sent Released : ScreenId → Prop} (sent : Sent screenId) :
    ∀ effect ∈ sendAll screenId held, effect.Within Sent Released := by
  intro effect member
  obtain ⟨item, _, rfl⟩ := List.mem_map.mp member
  exact sent

/-- Returning control releases the previous screen only. -/
theorem returnLocal_within {nextRouter : HostRouter} {previous : ScreenId} {x y : Int}
    {Sent Released : ScreenId → Prop} (released : Released previous)
    (returned : (effects, next) = session.returnLocal nextRouter previous x y) :
    ∀ effect ∈ effects, effect.Within Sent Released := by
  obtain ⟨rfl, _⟩ := Prod.mk.inj returned
  rw [List.forall_mem_append, List.forall_mem_append, List.forall_mem_cons,
    List.forall_mem_singleton, List.forall_mem_singleton]
  exact ⟨⟨⟨released, trivial⟩, injectAll_within⟩, trivial⟩

/-- Entering a screen sends to it, and releases the previous screen when control was remote. -/
theorem enterScreen_within {previous screenId : ScreenId} {x y : Int}
    {Sent Released : ScreenId → Prop} (sent : Sent screenId)
    (released : session.control = .remoteControl → Released previous)
    (entered : (effects, next) = session.enterScreen previous screenId x y) :
    ∀ effect ∈ effects, effect.Within Sent Released := by
  cases control : session.control with
  | remoteControl =>
      simp only [enterScreen, control] at entered
      obtain ⟨rfl, _⟩ := Prod.mk.inj entered
      rw [List.forall_mem_cons, List.forall_mem_cons]
      exact ⟨released control, sent, sendAll_within sent⟩
  | localControl =>
      simp only [enterScreen, control] at entered
      obtain ⟨rfl, _⟩ := Prod.mk.inj entered
      rw [List.forall_mem_append, List.forall_mem_append, List.forall_mem_cons,
        List.forall_mem_singleton]
      exact ⟨⟨injectAll_within, sent, sendAll_within sent⟩, trivial⟩

theorem Routed.handlePhysicalInput_within (routed : session.Routed router localScreen)
    {event : InputEvent} (handled : session.handlePhysicalInput event = (effects, next)) :
    ∀ effect ∈ effects, effect.Within (session.Sends (.physicalInput event)) fun _ => False := by
  unfold handlePhysicalInput at handled
  split_ifs at handled with orphan
  · obtain ⟨rfl, _⟩ := Prod.mk.inj handled
    simp
  · cases control : session.control with
    | localControl =>
        simp only [control] at handled
        obtain ⟨rfl, _⟩ := Prod.mk.inj handled
        simp [SessionEffect.Within]
    | remoteControl =>
        have away := routed.follows.mp control
        simp only [control, activeTopologyScreen, routed.routes, ne_eq, away, not_false_iff,
          if_true] at handled
        obtain ⟨rfl, _⟩ := Prod.mk.inj handled
        rw [List.forall_mem_singleton]
        exact ⟨(activeTopologyScreen_eq_some routed.routes).mpr ⟨away, rfl⟩,
          Bool.eq_false_iff.mpr orphan⟩

theorem Routed.handlePhysicalMotion_within (routed : session.Routed router localScreen)
    {motion : Motion} (handled : session.handlePhysicalMotion motion = .ok (effects, next)) :
    ∀ effect ∈ effects, effect.Within (session.Sends (.physicalMotion motion))
      (session.Releases (.physicalMotion motion)) := by
  simp only [handlePhysicalMotion, routed.routes, Outcome.bind_eq_ok, Outcome.pure_eq,
    Outcome.ok.injEq] at handled
  obtain ⟨⟨route, nextRouter⟩, moved, followed⟩ := handled
  cases route with
  | stay screenId dx dy =>
      obtain ⟨_, ⟨stayed, _⟩ | ⟨_, _, _, _, _, crossed, _⟩⟩ :=
        TopologyRouter.routeMotionInner_cases moved
      · obtain ⟨rfl, _, _⟩ := TopologyRoute.stay.inj stayed
        simp only [followRoute] at followed
        split_ifs at followed with atHome
        · obtain ⟨rfl, _⟩ := Prod.mk.inj followed
          simp [SessionEffect.Within]
        · obtain ⟨rfl, _⟩ := Prod.mk.inj followed
          rw [List.forall_mem_singleton]
          exact Or.inl ((activeTopologyScreen_eq_some routed.routes).mpr ⟨atHome, rfl⟩)
      · cases crossed
  | cross target x y =>
      have crosses : session.Crosses motion router localScreen target :=
        ⟨routed.routes, x, y, nextRouter, moved⟩
      simp only [followRoute] at followed
      split_ifs at followed with home
      · exact returnLocal_within ⟨router, localScreen, target, crosses, rfl, Or.inl home⟩
          followed.symm
      · refine enterScreen_within (Or.inr ⟨router, localScreen, crosses, home⟩) ?_ followed.symm
        intro control
        exact ⟨router, localScreen, target, crosses, rfl, Or.inr (routed.follows.mp control)⟩

/-- The effects of a captured event are for this machine, for the screens that it is sent to, and
for the screens that it releases. -/
theorem Routed.handle_within (routed : session.Routed router localScreen) {event : SessionEvent}
    (physical : (∃ input, event = .physicalInput input) ∨ ∃ motion, event = .physicalMotion motion)
    (handled : session.handle event = .ok (effects, next)) :
    ∀ effect ∈ effects, effect.Within (session.Sends event) (session.Releases event) := by
  rcases physical with ⟨input, rfl⟩ | ⟨motion, rfl⟩
  · intro effect member
    exact (routed.handlePhysicalInput_within (Outcome.ok.inj handled) effect member).mono
      (fun _ => id) fun _ => False.elim
  · exact routed.handlePhysicalMotion_within handled

/-- A stopping session releases the screen under the cursor only when inputs are held there. -/
theorem Synced.releaseInjected_within (synced : session.Synced router localScreen)
    {Sent : ScreenId → Prop} (released : session.releaseInjected = (effects, next)) :
    ∀ effect ∈ effects, effect.Within Sent (session.Releases .stopRequested) := by
  unfold DesktopSession.releaseInjected at released
  split_ifs at released with held
  · obtain ⟨rfl, _⟩ := Prod.mk.inj released
    rw [List.forall_mem_append, List.forall_mem_singleton]
    refine ⟨injectAll_within, ?_⟩
    have remote : session.control = .remoteControl := by
      cases control : session.control with
      | localControl => exact (held.2 (synced.whenLocal control).2).elim
      | remoteControl => rfl
    have active := (activeTopologyScreen_eq_some synced.routes).mpr ⟨synced.follows.mp remote, rfl⟩
    rw [active]
    exact ⟨active, held.2⟩
  · obtain ⟨rfl, _⟩ := Prod.mk.inj released
    exact injectAll_within

/-- Taking a topology over releases the screen under the cursor when it is lost. -/
def Leaves (session : DesktopSession) (topology : ScreenTopology) (screenId : ScreenId) : Prop :=
  session.activeTopologyScreen = some screenId ∧ activeStillRoutable topology screenId = false

theorem Routed.replaceTopology_within (routed : session.Routed router localScreen)
    (replaced : session.replaceTopology topology = .ok (effects, next)) :
    ∀ effect ∈ effects, effect.Within (fun _ => False) (session.Leaves topology) := by
  obtain ⟨_, _, _, _, ⟨away, lost, _, _, _, returned⟩ | ⟨_, _, rfl, _⟩⟩ :=
    replaceTopology_cases routed.routes replaced
  · exact returnLocal_within
      ⟨(activeTopologyScreen_eq_some routed.routes).mpr ⟨away, rfl⟩, lost⟩ returned
  · simp

/-- A valid topology is taken over exactly when the screen under the cursor is listed with a
positive size, and so is the local screen, online, when the cursor has to come home. -/
theorem replaceTopology_isOk_iff (routes : session.router = some (.topology router localScreen))
    (valid : topology.validate = .ok ()) :
    (session.replaceTopology topology).IsOk ↔
      topology.Enterable router.active ∧
        (router.active ≠ localScreen → topology.Lost router.active →
          topology.Online localScreen ∧ topology.Enterable localScreen) := by
  by_cases away : router.active ≠ localScreen ∧ topology.Lost router.active
  · obtain ⟨remote, lost⟩ := away
    have notRoutable := activeStillRoutable_eq_false_iff.mpr lost
    constructor
    · rintro ⟨⟨_, next⟩, replaced⟩
      have again := replaced
      simp only [replaceTopology, routes, remote, notRoutable, ne_eq, not_false_iff, and_self,
        if_true, Outcome.bind_eq_ok, Outcome.ofOption_eq_ok] at again
      obtain ⟨localNode, found, swapped, swap, placed, place, _⟩ := again
      obtain ⟨sameTopology, _⟩ := TopologyRouter.replaceTopology_eq_ok swap
      have online : topology.Online localScreen := by
        obtain ⟨listed, present⟩ : localNode.screenId = localScreen ∧ localNode.online = true := by
          simpa using List.find?_some found
        have wellFormed := ScreenTopology.validate_eq_ok.mp valid
        have lookup := wellFormed.find_of_mem (List.mem_of_find?_eq_some found)
        rw [ScreenTopology.Online, ← listed, lookup]
        exact present
      refine ⟨(TopologyRouter.replaceTopology_isOk_iff router valid).mp ⟨swapped, swap⟩,
        fun _ _ => ⟨online, ?_⟩⟩
      rw [← sameTopology]
      exact (TopologyRouter.setPosition_isOk_iff swapped localScreen _ _).mp ⟨placed, place⟩
    · rintro ⟨listed, home⟩
      obtain ⟨online, homeListed⟩ := home remote lost
      obtain ⟨next, _, _, _, replaced, _⟩ :=
        (recoversHome_iff routes remote valid online lost).mpr ⟨listed, homeListed⟩
      exact ⟨_, replaced⟩
  · have kept : ¬ (router.active ≠ localScreen ∧
        activeStillRoutable topology router.active = false) := by
      rwa [activeStillRoutable_eq_false_iff]
    have swaps : (session.replaceTopology topology).IsOk ↔
        (router.replaceTopology topology).IsOk := by
      simp only [Outcome.IsOk, replaceTopology, routes, if_neg kept, Outcome.bind_eq_ok,
        Outcome.pure_eq, Outcome.ok.injEq]
      constructor
      · rintro ⟨_, swapped, swap, _⟩
        exact ⟨swapped, swap⟩
      · rintro ⟨swapped, swap⟩
        exact ⟨_, swapped, swap, rfl⟩
    rw [swaps, TopologyRouter.replaceTopology_isOk_iff router valid]
    exact (and_iff_left fun remote lost => (away ⟨remote, lost⟩).elim).symm

/-! ## Sessions in step with a topology -/

/-- The session is in step with a topology, and its cursor is at home or on an online screen. -/
def Oriented (session : DesktopSession) (topology : ScreenTopology) (localScreen : ScreenId) :
    Prop :=
  ∃ router : TopologyRouter, session.Synced router localScreen ∧ router.topology = topology ∧
    (router.active ≠ localScreen → topology.Online router.active)

theorem oriented_hostTopology {x y : Int}
    (built : hostTopology topology localScreen x y = .ok session) :
    session.Oriented topology localScreen := by
  obtain ⟨_, _, router, sameTopology, atHome, rfl⟩ := hostTopology_eq_ok built
  exact ⟨router, ⟨⟨rfl, by simp [atHome]⟩, fun _ => ⟨rfl, rfl⟩, fun absurd => by cases absurd⟩,
    sameTopology, fun away => (away atHome).elim⟩

/-- A session in step has one router. -/
theorem Synced.oriented (synced : session.Synced router localScreen) {nextRouter : TopologyRouter}
    (routes : session.router = some (.topology nextRouter localScreen))
    (sameTopology : nextRouter.topology = topology)
    (online : nextRouter.active ≠ localScreen → topology.Online nextRouter.active) :
    session.Oriented topology localScreen := by
  obtain rfl : router = nextRouter := by simpa [synced.routes] using routes
  exact ⟨router, synced, sameTopology, online⟩

/-- Captured events keep a session in step: the cursor crosses to online screens only. -/
theorem Oriented.handle (oriented : session.Oriented topology localScreen) {event : SessionEvent}
    (physical : (∃ input, event = .physicalInput input) ∨ ∃ motion, event = .physicalMotion motion)
    (handled : session.handle event = .ok (effects, next)) :
    next.Oriented topology localScreen := by
  obtain ⟨router, synced, rfl, online⟩ := oriented
  rcases physical with ⟨input, rfl⟩ | ⟨motion, rfl⟩
  · obtain ⟨_, nextSynced⟩ := synced.handlePhysicalInput (Outcome.ok.inj handled).symm
    exact ⟨router, nextSynced, rfl, online⟩
  · have fed : session.feed (.physicalMotion motion) = .ok (effects, next) := handled
    obtain ⟨_, _, nextSynced⟩ := synced.feed fed
    obtain ⟨nextRouter, sameTopology, stayed | ⟨edge, target, x, y, linked, arrived,
      home | away⟩⟩ :=
      handlePhysicalMotion_cases synced.routes handled
    · obtain ⟨sameActive, rfl, _⟩ := stayed
      exact nextSynced.oriented rfl sameTopology (sameActive ▸ online)
    · obtain ⟨_, rfl⟩ := Prod.mk.inj home.2
      exact nextSynced.oriented rfl sameTopology fun away => (away (arrived.trans home.1)).elim
    · have routes : next.router = some (.topology nextRouter localScreen) :=
        (congrArg (fun result => result.2.router) away.2).trans (enterScreen_router ..)
      refine nextSynced.oriented routes sameTopology fun _ => ?_
      rw [arrived]
      exact (TopologyRouter.linkedEdge_eq_some linked).1

/-- A session that takes a topology over is in step with it. -/
theorem Synced.replaceTopology (synced : session.Synced router localScreen)
    (replaced : session.replaceTopology topology = .ok (effects, next)) :
    next.Oriented topology localScreen := by
  have fed : session.feed (.replaceTopology topology) = .ok (effects, next) := replaced
  obtain ⟨_, _, nextSynced⟩ := synced.feed fed
  obtain ⟨_, _, nextRouter, sameTopology, ⟨_, _, atHome, _, _, returned⟩ | ⟨stays,
    active, _, rfl⟩⟩ :=
    replaceTopology_cases synced.routes replaced
  · obtain ⟨_, rfl⟩ := Prod.mk.inj returned
    exact nextSynced.oriented rfl sameTopology fun away => (away atHome).elim
  · refine nextSynced.oriented rfl sameTopology fun away => ?_
    rw [active] at away ⊢
    have routable := stays.resolve_left away
    simp only [activeStillRoutable, Bool.and_eq_true] at routable
    exact routable.1

/-- Events are sent to online screens only. -/
theorem Oriented.online_of_sends (oriented : session.Oriented topology localScreen)
    {event : SessionEvent} {screenId : ScreenId} (sends : session.Sends event screenId) :
    topology.Online screenId := by
  obtain ⟨router, synced, rfl, online⟩ := oriented
  have active (shown : session.activeTopologyScreen = some screenId) :
      router.topology.Online screenId := by
    obtain ⟨away, rfl⟩ := (activeTopologyScreen_eq_some synced.routes).mp shown
    exact online away
  cases event with
  | physicalInput event => exact active sends.1
  | physicalMotion motion =>
      rcases sends with shown | ⟨other, _, ⟨routes, _, _, _, moved⟩, _⟩
      · exact active shown
      · obtain rfl : router = other := by
          have same := synced.routes.symm.trans routes
          simp only [Option.some.injEq, HostRouter.topology.injEq] at same
          exact same.1
        obtain ⟨_, ⟨absurd, _⟩ | ⟨_, target, _, _, linked, crossed, _⟩⟩ :=
          TopologyRouter.routeMotionInner_cases moved
        · cases absurd
        · obtain ⟨rfl, _, _⟩ := TopologyRoute.cross.inj crossed
          exact (TopologyRouter.linkedEdge_eq_some linked).1
  | _ => exact sends.elim

end DesktopSession
end Rflow
