import Rflow.Foundation.Ledger
import Rflow.Core.Session

/-!
# Ownership of held inputs

The effects of a host session are read as entries of a ledger: which keys and buttons are down at
the local machine and at each screen.  Along every run of physical input, motion and topology
replacement, the target in control alone has exactly the physically held inputs down.
-/

namespace Rflow

open Foundation

/-- Where an input can be down. -/
inductive Destination where
  | thisMachine
  | screen (screenId : ScreenId)
  deriving DecidableEq, Repr

/-- The ledger entry of an input event at a destination. -/
def inputEntry (destination : Destination) (event : InputEvent) :
    Option (Ledger.Entry Destination HeldInput) :=
  match event.held, event.state with
  | some item, some .pressed => some (.give destination item)
  | some item, some .released => some (.take destination item)
  | _, _ => none

/-- The ledger entry of an effect: injections act here, sends and releases on their screen. -/
def SessionEffect.entry : SessionEffect → Option (Ledger.Entry Destination HeldInput)
  | .injectLocal event => inputEntry .thisMachine event
  | .sendScreen screenId event => inputEntry (.screen screenId) event
  | .releaseScreen screenId => some (.empty (.screen screenId))
  | _ => none

/-- What is down at each destination, updated by one effect. -/
def observeEffect (ledger : Ledger Destination HeldInput) (effect : SessionEffect) :
    Ledger Destination HeldInput :=
  match effect.entry with
  | some entry => ledger.post entry
  | none => ledger

/-- What is down at each destination after a stream of effects, starting with nothing. -/
def downAfter (effects : List SessionEffect) : Ledger Destination HeldInput :=
  effects.foldl observeEffect fun _ => ∅

/-- The elements of an ordered set of held inputs. -/
def heldItems (held : OrderedSet HeldInput) : Finset HeldInput := held.toList.toFinset

@[simp]
theorem mem_heldItems {held : OrderedSet HeldInput} {item : HeldInput} :
    item ∈ heldItems held ↔ item ∈ held := by
  simp [heldItems, OrderedSet.mem_def]

@[simp]
theorem heldItems_empty : heldItems ∅ = ∅ := rfl

/-- The inputs that drive a host session. -/
inductive HostInput where
  | physicalInput (event : InputEvent)
  | physicalMotion (motion : Motion)
  | replaceTopology (topology : ScreenTopology)
  deriving DecidableEq, Repr

namespace DesktopSession

/-- Feed one input to the session. -/
def feed (session : DesktopSession) : HostInput →
    Outcome String (List SessionEffect × DesktopSession)
  | .physicalInput event => session.handle (.physicalInput event)
  | .physicalMotion motion => session.handle (.physicalMotion motion)
  | .replaceTopology topology => session.replaceTopology topology

/-- The destination in control: the local machine, or the active screen of the router. -/
def controlHolder (session : DesktopSession) : Destination :=
  match session.control, session.router with
  | .remoteControl, some (.topology router _) => .screen router.active
  | _, _ => .thisMachine

/-- The joint invariant of the session: the target in control has exactly the physically held inputs
injected and the other target has nothing injected. -/
structure Synced (session : DesktopSession) (router : TopologyRouter) (localScreen : ScreenId) :
    Prop extends Routed session router localScreen where
  whenLocal : session.control = .localControl →
    session.localInjected = session.physicalHeld ∧ session.remoteInjected = ∅
  whenRemote : session.control = .remoteControl →
    session.localInjected = ∅ ∧ session.remoteInjected = session.physicalHeld

end DesktopSession

/-! ## Effects that move held inputs -/

/-- Effects that move the ledger without an item ever being down at two destinations. -/
abbrev Moves (before : Ledger Destination HeldInput) (effects : List SessionEffect)
    (after : Ledger Destination HeldInput) : Prop :=
  Machine.Drives observeEffect Ledger.Exclusive before effects after

/-- An effect without a ledger entry moves nothing. -/
theorem moves_silent {holder : Destination} {items : Finset HeldInput} {effect : SessionEffect}
    (silent : effect.entry = none) :
    Moves (Ledger.solely holder items) [effect] (Ledger.solely holder items) := by
  have unchanged : observeEffect (Ledger.solely holder items) effect =
      Ledger.solely holder items := by
    simp [observeEffect, silent]
  refine .cons (Ledger.exclusive_solely holder items) ?_
  rw [unchanged]
  exact .nil (Ledger.exclusive_solely holder items)

/-- An effect whose entry leaves a single holder moves the ledger there. -/
theorem moves_single {holder other : Destination} {items more : Finset HeldInput}
    {effect : SessionEffect} {entry : Ledger.Entry Destination HeldInput}
    (reads : effect.entry = some entry)
    (posted : (Ledger.solely holder items).post entry = Ledger.solely other more) :
    Moves (Ledger.solely holder items) [effect] (Ledger.solely other more) := by
  have moved : observeEffect (Ledger.solely holder items) effect = Ledger.solely other more := by
    simp [observeEffect, reads, posted]
  refine .cons (Ledger.exclusive_solely holder items) ?_
  rw [moved]
  exact .nil (Ledger.exclusive_solely other more)

/-- A list of effects, one per held input, moves the ledger as its entries do. -/
theorem moves_entries {before after : Ledger Destination HeldInput} {held : List HeldInput}
    {effect : HeldInput → SessionEffect} {entry : HeldInput → Ledger.Entry Destination HeldInput}
    (reads : ∀ item, (effect item).entry = some (entry item))
    (driven : Machine.Drives Ledger.post Ledger.Exclusive before (held.map entry) after) :
    Moves before (held.map effect) after := by
  induction held generalizing before with
  | nil => exact ⟨driven.reaches, fun front isPrefix => by
      rw [List.prefix_nil.mp isPrefix]
      exact driven.safe [] List.nil_prefix⟩
  | cons item held induction =>
      obtain ⟨reaches, safe⟩ := driven
      obtain ⟨safeBefore, safeRest⟩ := Machine.safeThroughout_cons.mp safe
      have observed : observeEffect before (effect item) = before.post (entry item) := by
        simp [observeEffect, reads]
      refine .cons safeBefore ?_
      rw [observed]
      exact induction ⟨reaches, safeRest⟩

theorem moves_injectPressed (held : OrderedSet HeldInput) (items : Finset HeldInput) :
    Moves (Ledger.solely .thisMachine items) (DesktopSession.injectAll held .pressed)
      (Ledger.solely .thisMachine (heldItems held ∪ items)) := by
  refine moves_entries (fun item => ?_)
    (Ledger.drives_give Destination.thisMachine items held.toList)
  simp [SessionEffect.entry, inputEntry]

theorem moves_injectReleased (held : OrderedSet HeldInput) (items : Finset HeldInput) :
    Moves (Ledger.solely .thisMachine items) (DesktopSession.injectAll held .released)
      (Ledger.solely .thisMachine (items \ heldItems held)) := by
  refine moves_entries (fun item => ?_)
    (Ledger.drives_take Destination.thisMachine items held.toList)
  simp [SessionEffect.entry, inputEntry]

theorem moves_sendAll (screenId : ScreenId) (held : OrderedSet HeldInput)
    (items : Finset HeldInput) :
    Moves (Ledger.solely (.screen screenId) items) (DesktopSession.sendAll screenId held)
      (Ledger.solely (.screen screenId) (heldItems held ∪ items)) := by
  refine moves_entries (fun item => ?_)
    (Ledger.drives_give (Destination.screen screenId) items held.toList)
  simp [SessionEffect.entry, inputEntry]

/-- One input event at the holder tracks the held set it is observed in. -/
theorem moves_observe {holder : Destination} {held : OrderedSet HeldInput} {event : InputEvent}
    {effect : SessionEffect} (reads : effect.entry = inputEntry holder event) :
    Moves (Ledger.solely holder (heldItems held)) [effect]
      (Ledger.solely holder (heldItems (observe held event))) := by
  cases subject : event.held with
  | none =>
      have untouched : observe held event = held := by simp [observe, subject]
      rw [untouched]
      exact moves_silent (by simp [reads, inputEntry, subject])
  | some item =>
      cases direction : event.state with
      | none =>
          have untouched : observe held event = held := by simp [observe, direction]
          rw [untouched]
          exact moves_silent (by simp [reads, inputEntry, direction])
      | some state =>
          cases state with
          | pressed =>
              have given : effect.entry = some (.give holder item) := by
                simp [reads, inputEntry, subject, direction]
              refine moves_single given ?_
              rw [Ledger.post_give]
              congr 1
              ext other
              simp [observe, subject, direction]
          | released =>
              have taken : effect.entry = some (.take holder item) := by
                simp [reads, inputEntry, subject, direction]
              refine moves_single taken ?_
              rw [Ledger.post_take]
              congr 1
              ext other
              simp [observe, subject, direction, and_comm]
          | repeated =>
              have untouched : observe held event = held := by simp [observe, subject, direction]
              rw [untouched]
              exact moves_silent (by simp [reads, inputEntry, subject, direction])

/-! ## One step of the session -/

namespace DesktopSession

variable {session next : DesktopSession} {router : TopologyRouter} {localScreen : ScreenId}
  {effects : List SessionEffect}

theorem Synced.holder (synced : session.Synced router localScreen) :
    session.controlHolder =
      if router.active = localScreen then .thisMachine else .screen router.active := by
  unfold controlHolder
  rw [synced.routes]
  cases control : session.control with
  | localControl =>
      have atHome : router.active = localScreen := by
        by_contra away
        rw [synced.follows.mpr away] at control
        cases control
      simp [atHome]
  | remoteControl => simp [synced.follows.mp control]

/-- Returning control empties the remote screen before anything goes down locally. -/
theorem Synced.returnLocal (synced : session.Synced router localScreen)
    {nextRouter : TopologyRouter} (arrived : nextRouter.active = localScreen) {x y : Int}
    (returned : (effects, next) =
      session.returnLocal (.topology nextRouter localScreen) router.active x y) :
    Moves (Ledger.solely session.controlHolder (heldItems session.physicalHeld)) effects
        (Ledger.solely next.controlHolder (heldItems next.physicalHeld)) ∧
      next.Synced nextRouter localScreen := by
  obtain ⟨rfl, rfl⟩ := Prod.mk.inj returned
  have locallyHeld : session.localInjected.insertAll session.physicalHeld.toList =
      session.physicalHeld := by
    cases control : session.control with
    | localControl =>
        rw [(synced.whenLocal control).1]
        exact OrderedSet.insertAll_self session.physicalHeld
    | remoteControl =>
        rw [(synced.whenRemote control).1]
        exact OrderedSet.empty_insertAll_toList session.physicalHeld
  refine ⟨?_, ⟨rfl, by simp [arrived]⟩, fun _ => ⟨locallyHeld, rfl⟩, fun absurd => by cases absurd⟩
  have released : ∃ items, items ⊆ heldItems session.physicalHeld ∧
      Moves (Ledger.solely session.controlHolder (heldItems session.physicalHeld))
        [.releaseScreen router.active] (Ledger.solely .thisMachine items) := by
    rw [synced.holder]
    split_ifs with atHome
    · refine ⟨_, subset_rfl, moves_single rfl ?_⟩
      exact Ledger.post_empty_other (by simp) _
    · refine ⟨∅, Finset.empty_subset _, moves_single rfl ?_⟩
      rw [Ledger.post_empty]
      exact Ledger.solely_empty _ _
  obtain ⟨items, within, released⟩ := released
  have pressed := moves_injectPressed session.physicalHeld items
  rw [Finset.union_eq_left.mpr within] at pressed
  exact ((released.append (moves_silent rfl)).append pressed).append (moves_silent rfl)

/-- Entering a screen empties the previous target before anything goes down on the new one. -/
theorem Synced.enterScreen (synced : session.Synced router localScreen)
    {nextRouter : TopologyRouter} {screenId : ScreenId} (arrived : nextRouter.active = screenId)
    (away : screenId ≠ localScreen) {x y : Int}
    (entered : (effects, next) =
      { session with router := some (.topology nextRouter localScreen) }.enterScreen
        router.active screenId x y) :
    Moves (Ledger.solely session.controlHolder (heldItems session.physicalHeld)) effects
        (Ledger.solely next.controlHolder (heldItems next.physicalHeld)) ∧
      next.Synced nextRouter localScreen := by
  have holder := synced.holder
  have arrival : Moves (Ledger.solely (.screen screenId) ∅)
      (.enterScreen screenId x y :: sendAll screenId session.physicalHeld)
      (Ledger.solely (.screen screenId) (heldItems session.physicalHeld)) := by
    have pressed := moves_sendAll screenId session.physicalHeld ∅
    rw [Finset.union_empty] at pressed
    exact (moves_silent rfl).append pressed
  cases control : session.control with
  | remoteControl =>
      simp only [DesktopSession.enterScreen, control] at entered
      obtain ⟨rfl, rfl⟩ := Prod.mk.inj entered
      refine ⟨?_, ⟨rfl, by simp [arrived, away]⟩, fun absurd => (by cases absurd),
        fun _ => ⟨(synced.whenRemote control).1, OrderedSet.empty_insertAll_toList _⟩⟩
      rw [if_neg (synced.follows.mp control)] at holder
      have released : Moves (Ledger.solely session.controlHolder (heldItems session.physicalHeld))
          [.releaseScreen router.active] (Ledger.solely (.screen screenId) ∅) := by
        refine moves_single rfl ?_
        rw [holder, Ledger.post_empty]
        exact Ledger.solely_empty _ _
      have final := released.append arrival
      simpa [controlHolder, arrived] using final
  | localControl =>
      simp only [DesktopSession.enterScreen, control] at entered
      obtain ⟨rfl, rfl⟩ := Prod.mk.inj entered
      obtain ⟨localHeld, remoteEmpty⟩ := synced.whenLocal control
      refine ⟨?_, ⟨rfl, by simp [arrived, away]⟩, fun absurd => (by cases absurd),
        fun _ => ⟨rfl, ?_⟩⟩
      · have atHome : session.controlHolder = .thisMachine := by
          simp [controlHolder, control]
        have released := moves_injectReleased session.localInjected (heldItems session.physicalHeld)
        rw [localHeld, sdiff_self, Finset.bot_eq_empty,
          Ledger.solely_empty _ (Destination.screen screenId)] at released
        have announced : (SessionEffect.controlChanged .remoteControl).entry = none := rfl
        have final := (released.append arrival).append (moves_silent announced)
        rw [atHome]
        simpa [controlHolder, arrived, localHeld] using final
      · simp [remoteEmpty]

/-- A physical input goes to the target in control and is tracked there as it is physically. -/
theorem Synced.handlePhysicalInput (synced : session.Synced router localScreen)
    {event : InputEvent} (handled : (effects, next) = session.handlePhysicalInput event) :
    Moves (Ledger.solely session.controlHolder (heldItems session.physicalHeld)) effects
        (Ledger.solely next.controlHolder (heldItems next.physicalHeld)) ∧
      next.Synced router localScreen := by
  unfold DesktopSession.handlePhysicalInput at handled
  split_ifs at handled with orphan
  · obtain ⟨rfl, rfl⟩ := Prod.mk.inj handled
    exact ⟨.nil (Ledger.exclusive_solely _ _), synced⟩
  · have holder := synced.holder
    cases control : session.control with
    | localControl =>
        simp only [control] at handled
        obtain ⟨rfl, rfl⟩ := Prod.mk.inj handled
        obtain ⟨localHeld, remoteEmpty⟩ := synced.whenLocal control
        have atHome : session.controlHolder = .thisMachine := by simp [controlHolder, control]
        refine ⟨?_, ⟨synced.routes, control ▸ synced.follows⟩,
          fun _ => ⟨by rw [localHeld], remoteEmpty⟩, fun absurd => by cases absurd⟩
        rw [atHome]
        exact moves_observe rfl
    | remoteControl =>
        have away := synced.follows.mp control
        simp only [control, activeTopologyScreen, synced.routes, ne_eq, away, not_false_iff,
          if_true] at handled
        obtain ⟨rfl, rfl⟩ := Prod.mk.inj handled
        obtain ⟨localEmpty, remoteHeld⟩ := synced.whenRemote control
        rw [if_neg away] at holder
        refine ⟨?_, ⟨rfl, control ▸ synced.follows⟩, fun absurd => (by cases absurd),
          fun _ => ⟨localEmpty, by rw [remoteHeld]⟩⟩
        rw [holder]
        exact moves_observe rfl

/-- Swapping the router without moving the active screen keeps the session in step. -/
theorem Synced.swapRouter (synced : session.Synced router localScreen)
    {nextRouter : TopologyRouter} (sameActive : nextRouter.active = router.active)
    (swapped : next = { session with router := some (.topology nextRouter localScreen) }) :
    next.Synced nextRouter localScreen ∧ next.controlHolder = session.controlHolder ∧
      next.physicalHeld = session.physicalHeld := by
  subst swapped
  have synced' : Synced { session with router := some (.topology nextRouter localScreen) }
      nextRouter localScreen :=
    ⟨⟨rfl, sameActive ▸ synced.follows⟩, synced.whenLocal, synced.whenRemote⟩
  refine ⟨synced', ?_, rfl⟩
  rw [synced'.holder, synced.holder, sameActive]

/-- Every step moves the held inputs with the control and keeps the session in step. -/
theorem Synced.feed (synced : session.Synced router localScreen) {input : HostInput}
    (fed : session.feed input = .ok (effects, next)) :
    ∃ nextRouter,
      Moves (Ledger.solely session.controlHolder (heldItems session.physicalHeld)) effects
          (Ledger.solely next.controlHolder (heldItems next.physicalHeld)) ∧
        next.Synced nextRouter localScreen := by
  cases input with
  | physicalInput event =>
      exact ⟨router, synced.handlePhysicalInput (Outcome.ok.inj fed).symm⟩
  | physicalMotion motion =>
      obtain ⟨nextRouter, _, stayed | ⟨edge, target, x, y, _, arrived, home | away⟩⟩ :=
        handlePhysicalMotion_cases synced.routes fed
      · obtain ⟨sameActive, swapped, rfl⟩ := stayed
        obtain ⟨nextSynced, sameHolder, sameHeld⟩ := synced.swapRouter sameActive swapped
        refine ⟨nextRouter, ?_, nextSynced⟩
        rw [sameHolder, sameHeld]
        split_ifs
        · exact moves_silent rfl
        · exact moves_silent rfl
      · exact ⟨nextRouter, synced.returnLocal (arrived.trans home.1) home.2⟩
      · exact ⟨nextRouter, synced.enterScreen arrived away.1 away.2⟩
  | replaceTopology topology =>
      obtain ⟨_, _, nextRouter, _, lost | kept⟩ := replaceTopology_cases synced.routes fed
      · obtain ⟨_, _, arrived, x, y, returned⟩ := lost
        exact ⟨nextRouter, synced.returnLocal arrived returned⟩
      · obtain ⟨_, sameActive, rfl, swapped⟩ := kept
        obtain ⟨nextSynced, sameHolder, sameHeld⟩ := synced.swapRouter sameActive swapped
        refine ⟨nextRouter, ?_, nextSynced⟩
        rw [sameHolder, sameHeld]
        exact .nil (Ledger.exclusive_solely _ _)

/-- The ledger agrees with a session in step: only the holder of control has something down. -/
def Accounted (localScreen : ScreenId) (session : DesktopSession)
    (ledger : Ledger Destination HeldInput) : Prop :=
  (∃ router, session.Synced router localScreen) ∧
    ledger = Ledger.solely session.controlHolder (heldItems session.physicalHeld)

/-- A new host session is in step: nothing is held and control is local. -/
theorem accounted_hostTopology {topology : ScreenTopology} {x y : Int}
    (built : hostTopology topology localScreen x y = .ok session) :
    Accounted localScreen session fun _ => ∅ := by
  obtain ⟨_, _, router, _, atHome, rfl⟩ := hostTopology_eq_ok built
  exact ⟨⟨router, ⟨rfl, by simp [atHome]⟩, fun _ => ⟨rfl, rfl⟩, fun absurd => by cases absurd⟩,
    (Function.update_eq_self _ _).symm⟩

theorem Accounted.feed {ledger : Ledger Destination HeldInput}
    (accounted : Accounted localScreen session ledger) {input : HostInput}
    (fed : session.feed input = .ok (effects, next)) :
    ∃ moved, Moves ledger effects moved ∧ Accounted localScreen next moved := by
  obtain ⟨⟨router, synced⟩, rfl⟩ := accounted
  obtain ⟨nextRouter, moves, synced⟩ := synced.feed fed
  exact ⟨_, moves, ⟨nextRouter, synced⟩, rfl⟩

/-- Along every run of a host session no key or button is ever down at two destinations, and after
it the destination in control has exactly the physically held inputs down, the others none. -/
theorem run_ownership {topology : ScreenTopology} {localScreen : ScreenId} {x y : Int}
    {session final : DesktopSession} {inputs : List HostInput} {effects : List SessionEffect}
    (built : hostTopology topology localScreen x y = .ok session)
    (ran : Machine.run feed session inputs = .ok (effects, final)) :
    (∀ front, front <+: effects → (downAfter front).Exclusive) ∧
      downAfter effects final.controlHolder = heldItems final.physicalHeld ∧
      ∀ other, other ≠ final.controlHolder → downAfter effects other = ∅ := by
  have start := accounted_hostTopology built
  have safe : Ledger.Exclusive (fun _ : Destination => (∅ : Finset HeldInput)) := by
    intro item first second member
    simp at member
  obtain ⟨moved, driven, _, rfl⟩ : ∃ moved, Moves (fun _ => ∅) effects moved ∧
      Accounted localScreen final moved :=
    Machine.run_drives (fun accounted fed => accounted.feed fed) start safe ran
  have reached : downAfter effects = Ledger.solely final.controlHolder
      (heldItems final.physicalHeld) := driven.reaches
  refine ⟨driven.safe, ?_, fun other different => ?_⟩
  · rw [reached, Ledger.solely_self]
  · rw [reached, Ledger.solely_other different]

/-- A key goes down on the local screen, then the cursor waits at the linked edge and crosses. -/
theorem run_ownership_crossing :
    ∃ session effects final,
      hostTopology (sampleTopology true) ⟨"local"⟩ 99 50 = .ok session ∧
        Machine.run feed session
          [.physicalInput (.key ⟨30⟩ .pressed), .physicalMotion ⟨1, 1000000, 8, 0⟩,
            .physicalMotion ⟨2, 1250000, 1, 0⟩] = .ok (effects, final) ∧
        (∀ front, front <+: effects → (downAfter front).Exclusive) ∧
        downAfter effects final.controlHolder = heldItems final.physicalHeld ∧
        ∀ other, other ≠ final.controlHolder → downAfter effects other = ∅ := by
  obtain ⟨session, built⟩ :
      ∃ session, hostTopology (sampleTopology true) ⟨"local"⟩ 99 50 = .ok session := ⟨_, rfl⟩
  obtain ⟨effects, final, ran⟩ : ∃ effects final, Machine.run feed session
      [.physicalInput (.key ⟨30⟩ .pressed), .physicalMotion ⟨1, 1000000, 8, 0⟩,
        .physicalMotion ⟨2, 1250000, 1, 0⟩] = .ok (effects, final) := by
    obtain rfl := Outcome.ok.inj built
    exact ⟨_, _, rfl⟩
  exact ⟨session, effects, final, built, ran, run_ownership built ran⟩

end DesktopSession
end Rflow
