import Rflow.Core.Ownership

/-!
# Coming home

When the topology is replaced under a remote cursor, the session must be able to bring it back: by
falling back to the local screen when the active one is lost, and by keeping an online path to the
local screen when it is not.
-/

namespace Rflow

open Foundation

namespace ScreenTopology

/-- The screen is in the topology and online. -/
def Online (topology : ScreenTopology) (id : ScreenId) : Prop :=
  (topology.find id).any ScreenNode.online = true

instance (topology : ScreenTopology) (id : ScreenId) : Decidable (topology.Online id) :=
  inferInstanceAs (Decidable (_ = true))

/-- A link joins two online screens. -/
def OnlineLink (topology : ScreenTopology) (left right : ScreenId) : Prop :=
  topology.Online left ∧ topology.Online right ∧
    ∃ link ∈ topology.links,
      (link.fromEdge.screenId = left ∧ link.toEdge.screenId = right) ∨
        (link.toEdge.screenId = left ∧ link.fromEdge.screenId = right)

/-- A path of links whose screens are all online. -/
def OnlinePath (topology : ScreenTopology) : ScreenId → ScreenId → Prop :=
  Relation.ReflTransGen topology.OnlineLink

/-- The screen is in the topology and its effective size is positive. -/
def Enterable (topology : ScreenTopology) (id : ScreenId) : Prop :=
  ∃ node, topology.find id = some node ∧ node.effectiveSize.Positive

/-- A screen is lost when it is absent, offline or without any link. -/
def Lost (topology : ScreenTopology) (id : ScreenId) : Prop :=
  topology.find id = none ∨ (∃ node, topology.find id = some node ∧ node.online = false) ∨
    ∀ link ∈ topology.links, link.touches id = false

theorem OnlineLink.symm {topology : ScreenTopology} {left right : ScreenId}
    (joined : topology.OnlineLink left right) : topology.OnlineLink right left := by
  obtain ⟨onlineLeft, onlineRight, link, member, forward | backward⟩ := joined
  · exact ⟨onlineRight, onlineLeft, link, member, Or.inr ⟨forward.2, forward.1⟩⟩
  · exact ⟨onlineRight, onlineLeft, link, member, Or.inl ⟨backward.2, backward.1⟩⟩

/-- A path that goes somewhere starts at an online screen. -/
theorem OnlinePath.online {topology : ScreenTopology} {left right : ScreenId}
    (path : topology.OnlinePath left right) (different : left ≠ right) : topology.Online left := by
  rcases Relation.ReflTransGen.cases_head path with same | ⟨_, joined, _⟩
  · exact absurd same different
  · exact joined.1

/-- Searching for an online screen finds the screen of that id when it is online. -/
theorem Online.find_online {topology : ScreenTopology} {id : ScreenId}
    (online : topology.Online id) :
    topology.screens.find? (fun screen => screen.screenId = id ∧ screen.online) =
      topology.find id := by
  obtain ⟨node, found, nodeOnline⟩ := (Option.any_eq_true ..).mp online
  rw [found]
  obtain ⟨sameId, front, back, split, earlier⟩ := List.find?_eq_some_iff_append.mp found
  refine List.find?_eq_some_iff_append.mpr
    ⟨by simpa [nodeOnline] using sameId, front, back, split, fun other member => ?_⟩
  have differs := earlier other member
  simp only [Bool.not_eq_true', decide_eq_false_iff_not] at differs ⊢
  exact fun both => differs both.1

end ScreenTopology

namespace TopologyRouter

/-- A linked edge of an online active screen is an online link. -/
theorem onlineLink_of_linkedEdge {router : TopologyRouter} {edge : Edge} {target : ScreenEdge}
    (linked : router.linkedEdge edge = some target)
    (online : router.topology.Online router.active) :
    router.topology.OnlineLink router.active target.screenId := by
  obtain ⟨targetOnline, link, member, forward | backward⟩ := linkedEdge_eq_some linked
  · exact ⟨online, targetOnline, link, member, Or.inl (by simp [forward.1, forward.2])⟩
  · exact ⟨online, targetOnline, link, member, Or.inr (by simp [backward.1, backward.2])⟩

end TopologyRouter

namespace DesktopSession

variable {session next : DesktopSession} {router : TopologyRouter} {localScreen : ScreenId}
  {topology : ScreenTopology}

/-! ## Losing the active screen -/

/-- The local test of the session fails exactly for lost screens. -/
theorem activeStillRoutable_eq_false_iff {active : ScreenId} :
    activeStillRoutable topology active = false ↔ topology.Lost active := by
  unfold activeStillRoutable ScreenTopology.Lost
  rw [Bool.and_eq_false_iff]
  cases found : topology.find active with
  | none => simp
  | some node => simp

/-- Replacing the topology gives the remote screen up and comes home: release it, place the local
cursor, press everything that is held, report local control. -/
def RecoversHome (session : DesktopSession) (active localScreen : ScreenId)
    (topology : ScreenTopology) : Prop :=
  ∃ next recovered x y,
    session.replaceTopology topology =
        .ok ([.releaseScreen active, .setLocalCursor x y] ++
          injectAll session.physicalHeld .pressed ++ [.controlChanged .localControl], next) ∧
      next.control = .localControl ∧
      next.router = some (.topology recovered localScreen) ∧ recovered.active = localScreen ∧
      recovered.topology = topology ∧ next.remoteInjected = ∅

end DesktopSession

namespace TopologyRouter

theorem replaceTopology_isOk_iff (router : TopologyRouter) {topology : ScreenTopology}
    (valid : topology.validate = .ok ()) :
    (router.replaceTopology topology).IsOk ↔ topology.Enterable router.active := by
  simp only [Outcome.IsOk, replaceTopology, valid, Outcome.ok_bind, Outcome.bind_eq_ok,
    activeSize_eq_ok, Outcome.pure_eq, Outcome.ok.injEq]
  constructor
  · rintro ⟨_, _, ⟨node, found, rfl⟩, position, clamped, _⟩
    exact ⟨node, found, clampInto_isOk.mp ⟨position, clamped⟩⟩
  · rintro ⟨node, found, positive⟩
    obtain ⟨position, clamped⟩ := clampInto_isOk.mpr positive
    exact ⟨_, _, ⟨node, found, rfl⟩, position, clamped, rfl⟩

theorem setPosition_isOk_iff (router : TopologyRouter) (active : ScreenId) (x y : Int) :
    (router.setPosition active x y).IsOk ↔ router.topology.Enterable active := by
  simp only [Outcome.IsOk, setPosition, Outcome.bind_eq_ok, activeSize_eq_ok, Outcome.pure_eq,
    Outcome.ok.injEq]
  constructor
  · rintro ⟨_, _, ⟨node, found, rfl⟩, position, clamped, _⟩
    exact ⟨node, found, clampInto_isOk.mp ⟨position, clamped⟩⟩
  · rintro ⟨node, found, positive⟩
    obtain ⟨position, clamped⟩ := clampInto_isOk.mpr positive
    exact ⟨_, _, ⟨node, found, rfl⟩, position, clamped, rfl⟩

end TopologyRouter

namespace DesktopSession

/-- A lost active screen is recovered exactly when the new topology still lists it and both it and
the local screen have a positive size. -/
theorem recoversHome_iff {session : DesktopSession} {router : TopologyRouter}
    {localScreen : ScreenId} {topology : ScreenTopology}
    (routes : session.router = some (.topology router localScreen))
    (remote : router.active ≠ localScreen) (valid : topology.validate = .ok ())
    (online : topology.Online localScreen) (lost : topology.Lost router.active) :
    session.RecoversHome router.active localScreen topology ↔
      topology.Enterable router.active ∧ topology.Enterable localScreen := by
  have notRoutable := activeStillRoutable_eq_false_iff.mpr lost
  constructor
  · rintro ⟨next, recovered, x, y, replaced, _⟩
    simp only [replaceTopology, routes, remote, notRoutable, ne_eq, not_false_iff, and_self,
      if_true, Outcome.bind_eq_ok] at replaced
    obtain ⟨_, _, swapped, swap, placed, place, _⟩ := replaced
    obtain ⟨sameTopology, _⟩ := TopologyRouter.replaceTopology_eq_ok swap
    refine ⟨(TopologyRouter.replaceTopology_isOk_iff router valid).mp ⟨swapped, swap⟩, ?_⟩
    rw [← sameTopology]
    exact (TopologyRouter.setPosition_isOk_iff swapped localScreen _ _).mp ⟨placed, place⟩
  · rintro ⟨listed, home⟩
    obtain ⟨swapped, swap⟩ := (TopologyRouter.replaceTopology_isOk_iff router valid).mpr listed
    obtain ⟨sameTopology, _⟩ := TopologyRouter.replaceTopology_eq_ok swap
    obtain ⟨localNode, found, positive⟩ := home
    have homeAgain : swapped.topology.Enterable localScreen := by
      rw [sameTopology]
      exact ⟨localNode, found, positive⟩
    obtain ⟨placed, place⟩ := (TopologyRouter.setPosition_isOk_iff swapped localScreen
      (localNode.effectiveSize.width.tdiv 2) (localNode.effectiveSize.height.tdiv 2)).mpr homeAgain
    obtain ⟨keptTopology, atHome⟩ := TopologyRouter.setPosition_eq_ok place
    have replaced : session.replaceTopology topology =
        .ok (session.returnLocal (.topology placed localScreen) router.active
          (localNode.effectiveSize.width.tdiv 2) (localNode.effectiveSize.height.tdiv 2)) := by
      simp only [replaceTopology, routes, remote, notRoutable, ne_eq, not_false_iff, and_self,
        if_true, online.find_online, found, Outcome.ofOption, Outcome.ok_bind, swap, place,
        Outcome.pure_eq]
    exact ⟨_, placed, _, _, replaced, rfl, rfl, atHome, keptTopology.trans sameTopology, rfl⟩

/-- A remote screen that loses its link but stays listed gives control back. -/
theorem recoversHome_when_unlinked :
    sampleAway.RecoversHome ⟨"remote"⟩ ⟨"local"⟩ (sampleTopology false) := by
  have routes : sampleAway.router = some (.topology
      ⟨sampleTopology true, ⟨"remote"⟩, 1, 50, .reset⟩ ⟨"local"⟩) := rfl
  refine (recoversHome_iff routes (by decide) rfl (by decide) (Or.inr (Or.inr ?_))).mpr
    ⟨⟨_, rfl, by decide⟩, ⟨_, rfl, by decide⟩⟩
  simp [sampleTopology]

/-- The sample topology without its remote screen. -/
def sampleDeleted : ScreenTopology where
  revision := 1
  screens := [sampleNode "local" "host" true true]
  links := []

/-- A topology that no longer lists the remote screen under the cursor is refused, and the session
stays on the removed screen. -/
theorem not_recoversHome_when_deleted :
    (∃ effects, (hostTopology (sampleTopology true) ⟨"local"⟩ 99 50 >>= fun start =>
        Machine.run feed start
          [.physicalMotion ⟨1, 1000000, 8, 0⟩, .physicalMotion ⟨2, 1250000, 1, 0⟩]) =
        .ok (effects, sampleAway)) ∧
      sampleDeleted.validate = .ok () ∧ sampleDeleted.Online ⟨"local"⟩ ∧
      sampleDeleted.Lost ⟨"remote"⟩ ∧
      sampleAway.replaceTopology sampleDeleted =
        .err "active screen remote is not in the topology" ∧
      ¬ sampleAway.RecoversHome ⟨"remote"⟩ ⟨"local"⟩ sampleDeleted := by
  have refused : sampleAway.replaceTopology sampleDeleted =
      .err "active screen remote is not in the topology" := rfl
  refine ⟨⟨_, rfl⟩, rfl, by decide, Or.inl rfl, refused, ?_⟩
  rintro ⟨_, _, _, _, replaced, _⟩
  rw [refused] at replaced
  cases replaced

/-! ## Keeping the way home -/

/-- Off the local screen, a path of links between online screens leads back to it. -/
def CanComeHome (session : DesktopSession) : Prop :=
  ∀ router localScreen, session.router = some (.topology router localScreen) →
    router.active ≠ localScreen → router.topology.OnlinePath router.active localScreen

/-- A topology that replaces the current one under a remote cursor, and in which the active screen
passes the local test of the session, has an online path from there to the local screen. -/
def KeepsPath (session : DesktopSession) : HostInput → Prop
  | .replaceTopology topology =>
      ∀ router localScreen, session.router = some (.topology router localScreen) →
        router.active ≠ localScreen → activeStillRoutable topology router.active = true →
          topology.OnlinePath router.active localScreen
  | _ => True

/-- The session routes over a topology in which the local screen is online. -/
def HomeOnline (localScreen : ScreenId) (session : DesktopSession) : Prop :=
  ∃ router, session.router = some (.topology router localScreen) ∧
    router.topology.Online localScreen

end DesktopSession

/-- A replaced topology has the local screen online. -/
def HostInput.KeepsHome (localScreen : ScreenId) : HostInput → Prop
  | .replaceTopology topology => topology.Online localScreen
  | _ => True

namespace DesktopSession

variable {session next : DesktopSession} {router : TopologyRouter} {localScreen : ScreenId}
  {topology : ScreenTopology} {effects : List SessionEffect}

theorem canComeHome_iff (routes : session.router = some (.topology router localScreen)) :
    session.CanComeHome ↔
      (router.active ≠ localScreen → router.topology.OnlinePath router.active localScreen) := by
  constructor
  · exact fun home => home router localScreen routes
  · intro home other otherLocal otherRoutes
    obtain ⟨rfl, rfl⟩ : router = other ∧ localScreen = otherLocal := by
      simpa [routes] using otherRoutes
    exact home

theorem keepsPath_iff (routes : session.router = some (.topology router localScreen)) :
    session.KeepsPath (.replaceTopology topology) ↔
      (router.active ≠ localScreen → activeStillRoutable topology router.active = true →
        topology.OnlinePath router.active localScreen) := by
  constructor
  · exact fun kept => kept router localScreen routes
  · intro kept other otherLocal otherRoutes
    obtain ⟨rfl, rfl⟩ : router = other ∧ localScreen = otherLocal := by
      simpa [routes] using otherRoutes
    exact kept

/-- A motion moves the cursor along online links only, so the way back stays. -/
theorem CanComeHome.handlePhysicalMotion
    (home : session.CanComeHome) (routes : session.router = some (.topology router localScreen))
    (online : router.topology.Online localScreen) {motion : Motion}
    (handled : session.handlePhysicalMotion motion = .ok (effects, next)) :
    next.HomeOnline localScreen ∧ next.CanComeHome := by
  have homePath := (canComeHome_iff routes).mp home
  obtain ⟨nextRouter, sameTopology, stayed | crossed⟩ := handlePhysicalMotion_cases routes handled
  · obtain ⟨sameActive, rfl, _⟩ := stayed
    refine ⟨⟨nextRouter, rfl, sameTopology ▸ online⟩, (canComeHome_iff rfl).mpr ?_⟩
    rw [sameTopology, sameActive]
    exact homePath
  · obtain ⟨edge, target, x, y, linked, arrived, came | left⟩ := crossed
    · obtain ⟨atHome, returned⟩ := came
      obtain ⟨_, rfl⟩ := Prod.mk.inj returned
      exact ⟨⟨nextRouter, rfl, sameTopology ▸ online⟩,
        (canComeHome_iff rfl).mpr fun away => absurd (arrived.trans atHome) away⟩
    · obtain ⟨_, entered⟩ := left
      have nextRoutes : next.router = some (.topology nextRouter localScreen) :=
        (congrArg (fun result => result.2.router) entered).trans (enterScreen_router ..)
      refine ⟨⟨nextRouter, nextRoutes, sameTopology ▸ online⟩,
        (canComeHome_iff nextRoutes).mpr fun _ => ?_⟩
      rw [sameTopology, arrived]
      by_cases wasHome : router.active = localScreen
      · have joined := router.onlineLink_of_linkedEdge linked (wasHome ▸ online)
        exact wasHome ▸ Relation.ReflTransGen.single joined.symm
      · have path := homePath wasHome
        have joined := router.onlineLink_of_linkedEdge linked (path.online wasHome)
        exact Relation.ReflTransGen.head joined.symm path

/-- A successful replacement keeps a way home exactly when it keeps a path for a kept screen. -/
theorem HomeOnline.replaceTopology
    (routes : session.router = some (.topology router localScreen))
    (online : topology.Online localScreen)
    (replaced : session.replaceTopology topology = .ok (effects, next)) :
    next.HomeOnline localScreen ∧
      (next.CanComeHome ↔ session.KeepsPath (.replaceTopology topology)) := by
  rw [keepsPath_iff routes]
  obtain ⟨_, _, nextRouter, rfl, lost | kept⟩ := replaceTopology_cases routes replaced
  · obtain ⟨_, notRoutable, arrived, x, y, returned⟩ := lost
    obtain ⟨_, rfl⟩ := Prod.mk.inj returned
    refine ⟨⟨nextRouter, rfl, online⟩, ?_⟩
    refine iff_of_true ((canComeHome_iff rfl).mpr fun away => absurd arrived away) ?_
    exact fun _ routable => absurd routable (by simp [notRoutable])
  · obtain ⟨keeps, sameActive, _, rfl⟩ := kept
    refine ⟨⟨nextRouter, rfl, online⟩, ?_⟩
    rw [canComeHome_iff rfl, sameActive]
    constructor
    · exact fun path away _ => path away
    · exact fun path away => path away (keeps.resolve_left away)

theorem HomeOnline.feed (homeOnline : session.HomeOnline localScreen)
    (home : session.CanComeHome) {input : HostInput} (keepsHome : input.KeepsHome localScreen)
    (fed : session.feed input = .ok (effects, next)) :
    next.HomeOnline localScreen ∧ (next.CanComeHome ↔ session.KeepsPath input) := by
  obtain ⟨router, routes, online⟩ := homeOnline
  cases input with
  | physicalInput event =>
      have sameRouter : next.router = session.router := by
        rw [← handlePhysicalInput_router session event, Outcome.ok.inj fed]
      have nextRoutes := sameRouter.trans routes
      exact ⟨⟨router, nextRoutes, online⟩, iff_of_true
        ((canComeHome_iff nextRoutes).mpr ((canComeHome_iff routes).mp home)) trivial⟩
  | physicalMotion motion =>
      obtain ⟨nextOnline, nextHome⟩ := home.handlePhysicalMotion routes online fed
      exact ⟨nextOnline, iff_of_true nextHome trivial⟩
  | replaceTopology topology =>
      exact HomeOnline.replaceTopology routes keepsHome fed

/-- With the local screen online throughout, the cursor can always come home exactly in the runs
whose topology replacements keep an online path for every remote screen they keep active. -/
theorem canComeHome_throughout_iff {topology : ScreenTopology} {localScreen : ScreenId} {x y : Int}
    {session final : DesktopSession} {inputs : List HostInput} {effects : List SessionEffect}
    (built : hostTopology topology localScreen x y = .ok session)
    (online : topology.Online localScreen)
    (keepHome : ∀ input ∈ inputs, input.KeepsHome localScreen)
    (ran : Machine.run feed session inputs = .ok (effects, final)) :
    Machine.Throughout feed CanComeHome session inputs ↔
      Machine.Along feed KeepsPath session inputs := by
  obtain ⟨_, _, router, rfl, atHome, routes⟩ := hostTopology_eq_ok built
  have starts : session.router = some (.topology router localScreen) := by rw [routes]
  have start : HomeOnline localScreen session := ⟨router, starts, online⟩
  have home : session.CanComeHome := (canComeHome_iff starts).mpr fun away => absurd atHome away
  refine Machine.throughout_iff_along ?_ start home keepHome ran
  intro state input outputs next homeOnline home keepsHome fed
  exact homeOnline.feed home keepsHome fed

end DesktopSession

/-- Three screens in a row, with or without the link that joins the first two. -/
def sampleChain (joined : Bool) : ScreenTopology where
  revision := 0
  screens := [sampleNode "local" "host" true true, sampleNode "near" "peer" true false,
    sampleNode "far" "other" true false]
  links := (if joined then [sampleLink "local" "near"] else []) ++ [sampleLink "near" "far"]

/-- The motions that carry the cursor over both links of the chain. -/
def sampleCrossing : List HostInput :=
  [.physicalMotion ⟨1, 1000000, 8, 0⟩, .physicalMotion ⟨2, 1250000, 1, 0⟩,
    .physicalMotion ⟨3, 1300000, 98, 0⟩, .physicalMotion ⟨4, 1550000, 1, 0⟩]

namespace DesktopSession

/-- Replacing the chain by itself under the cursor on its last screen keeps the way home. -/
theorem canComeHome_throughout_chain :
    ∃ session, hostTopology (sampleChain true) ⟨"local"⟩ 99 50 = .ok session ∧
      (Machine.Throughout feed CanComeHome session
          (sampleCrossing ++ [.replaceTopology (sampleChain true)]) ↔
        Machine.Along feed KeepsPath session
          (sampleCrossing ++ [.replaceTopology (sampleChain true)])) := by
  obtain ⟨session, built⟩ :
      ∃ session, hostTopology (sampleChain true) ⟨"local"⟩ 99 50 = .ok session := ⟨_, rfl⟩
  obtain ⟨effects, final, ran⟩ : ∃ effects final, Machine.run feed session
      (sampleCrossing ++ [.replaceTopology (sampleChain true)]) = .ok (effects, final) := by
    obtain rfl := Outcome.ok.inj built
    exact ⟨_, _, rfl⟩
  refine ⟨session, built, canComeHome_throughout_iff built (by decide) ?_ ran⟩
  simp only [sampleCrossing, List.cons_append, List.nil_append, List.forall_mem_cons]
  exact ⟨trivial, trivial, trivial, trivial,
    (by decide : (sampleChain true).Online ⟨"local"⟩), by simp⟩

/-- Without its first link the chain has no path from its last screen to the local one. -/
theorem not_onlinePath_cut_chain : ¬ (sampleChain false).OnlinePath ⟨"far"⟩ ⟨"local"⟩ := by
  intro path
  have stuck : ∀ id, (sampleChain false).OnlinePath ⟨"far"⟩ id → id ≠ ⟨"local"⟩ := by
    intro id reached
    induction reached with
    | refl => decide
    | tail _ joined _ =>
        obtain ⟨_, _, link, member, ends⟩ := joined
        obtain rfl : link = sampleLink "near" "far" := by simpa [sampleChain] using member
        rcases ends with ⟨_, rfl⟩ | ⟨_, rfl⟩ <;> decide
  exact stuck _ path rfl

/-- Removing the first link of the chain under a cursor on its last screen strands it there,
although every topology is valid and has the local screen online. -/
theorem cut_chain_strands_cursor :
    ¬ ∀ (topology : ScreenTopology) (localScreen : ScreenId) (x y : Int)
        (session final : DesktopSession) (inputs : List HostInput) (effects : List SessionEffect),
      hostTopology topology localScreen x y = .ok session → topology.Online localScreen →
        (∀ input ∈ inputs, input.KeepsHome localScreen) →
          Machine.run feed session inputs = .ok (effects, final) → final.CanComeHome := by
  intro claimed
  obtain ⟨session, built⟩ :
      ∃ session, hostTopology (sampleChain true) ⟨"local"⟩ 99 50 = .ok session := ⟨_, rfl⟩
  obtain ⟨effects, final, x, y, ran, stranded⟩ : ∃ effects final x y,
      Machine.run feed session (sampleCrossing ++ [.replaceTopology (sampleChain false)]) =
          .ok (effects, final) ∧
        final.router = some (.topology
          { topology := sampleChain false, active := ⟨"far"⟩, x, y, barrier := .reset }
          ⟨"local"⟩) := by
    obtain rfl := Outcome.ok.inj built
    exact ⟨_, _, _, _, rfl, rfl⟩
  have home := claimed _ _ _ _ _ _ (sampleCrossing ++ [.replaceTopology (sampleChain false)]) _
    built (by decide) ?_ ran
  · exact not_onlinePath_cut_chain ((canComeHome_iff stranded).mp home
      (by decide : (⟨"far"⟩ : ScreenId) ≠ ⟨"local"⟩))
  · simp only [sampleCrossing, List.cons_append, List.nil_append, List.forall_mem_cons]
    exact ⟨trivial, trivial, trivial, trivial,
      (by decide : (sampleChain false).Online ⟨"local"⟩), by simp⟩

end DesktopSession
end Rflow
