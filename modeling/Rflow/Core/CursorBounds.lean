import Rflow.Core.Crossing
import Rflow.Core.LayoutEdits

/-!
# The cursor on its screen

No call on a router panics exactly when all screens of its topologies have positive sizes.  The
cursor is then on its screen, unless it has crossed a left or top border into a screen too small to
hold a position one pixel inside.
-/

namespace Rflow

open Foundation

/-- A position is on a screen. -/
structure ScreenSize.Contains (size : ScreenSize) (x y : Int) : Prop where
  horizontal : 0 ≤ x ∧ x < size.width
  vertical : 0 ≤ y ∧ y < size.height

/-- All screens have positive effective sizes. -/
def ScreenTopology.Sized (topology : ScreenTopology) : Prop :=
  ∀ node ∈ topology.screens, node.effectiveSize.Positive

instance (topology : ScreenTopology) : Decidable topology.Sized :=
  inferInstanceAs (Decidable (∀ node ∈ topology.screens, node.effectiveSize.Positive))

theorem ScreenTopology.Sized.of_find {topology : ScreenTopology} {id : ScreenId} {node : ScreenNode}
    (sized : topology.Sized) (found : topology.find id = some node) : node.effectiveSize.Positive :=
  sized node (find_mem found)

/-- A call takes only topologies of a kind over; invalid ones it refuses. -/
def RouterCommand.Within (Taken : ScreenTopology → Prop) : RouterCommand → Prop
  | .replaceTopology topology => topology.validate = .ok () → Taken topology
  | .setPosition .. | .routeMotion .. | .routeMotionAt .. => True

/-! ## Calls that return -/

theorem ScreenTopology.checkLinks_returns {ids : List ScreenId} {occupied : List ScreenEdge}
    {links : List ScreenLink} : (checkLinks ids occupied links).Returns := by
  induction links generalizing occupied with
  | nil => exact Outcome.returns_ok
  | cons link rest induction =>
      simp only [checkLinks]
      split_ifs
      · exact Outcome.returns_err
      · exact Outcome.returns_err
      · exact Outcome.returns_err
      · exact induction
      · exact Outcome.returns_err

theorem ScreenTopology.validate_returns (topology : ScreenTopology) : topology.validate.Returns :=
  checkScreenIds_returns.bind fun _ _ => checkLinks_returns

namespace TopologyRouter

variable {router next : TopologyRouter} {size target : ScreenSize} {edge : Edge}
  {x y dx dy nextX nextY : Int} {timestampMicros : Option Nat}

theorem checkedPred_of_pos {extent : Int} (positive : 0 < extent) :
    checkedPred extent = .ok (extent - 1) :=
  checkedPred_eq_ok.mpr ⟨by unfold i32Min; omega, rfl⟩

theorem checkedPred_fails (extent : Int) : (checkedPred extent).Fails fun _ => False := by
  unfold checkedPred
  split_ifs <;> simp

theorem clamp_fails (value lower upper : Int) : (clamp value lower upper).Fails fun _ => False := by
  unfold clamp
  split_ifs <;> simp

/-- Clamping into a screen whose size is not positive panics. -/
theorem clampInto_panics (size : ScreenSize) (x y : Int) (empty : ¬ size.Positive) :
    ∃ message, clampInto size x y = .panic message := by
  have never : (clampInto size x y).Fails fun _ => False :=
    (checkedPred_fails _).bind fun _ _ => (clamp_fails _ _ _).bind fun _ _ =>
      (checkedPred_fails _).bind fun _ _ => (clamp_fails _ _ _).bind fun _ _ => Outcome.fails_ok
  cases clamped : clampInto size x y with
  | ok value => exact absurd (clampInto_isOk.mp ⟨value, clamped⟩) empty
  | err error => exact absurd clamped fun failed => never error failed
  | panic message => exact ⟨message, rfl⟩

theorem scaleAxis_isOk {value fromExtent toExtent : Int} (leaving : 0 < fromExtent)
    (entering : 0 < toExtent) : (scaleAxis value fromExtent toExtent).IsOk := by
  refine ⟨max 0 (min (toExtent - 1) ((value * toExtent).tdiv fromExtent)), ?_⟩
  rw [scaleAxis, if_neg leaving.ne', checkedPred_of_pos entering, Outcome.ok_bind, clamp_eq_ok]
  exact ⟨Int.le_sub_one_of_lt entering, rfl⟩

theorem alongEdge_isOk {value fromExtent toExtent : Int} (leaving : 0 < fromExtent)
    (entering : 0 < toExtent) : (alongEdge value fromExtent toExtent).IsOk := by
  obtain ⟨result, scaled⟩ :
      (scaleAxis (max 0 (min (fromExtent - 1) value)) fromExtent toExtent).IsOk :=
    scaleAxis_isOk leaving entering
  exact ⟨result, alongEdge_eq_ok.mpr
    ⟨by unfold i32Min; omega, Int.le_sub_one_of_lt leaving, scaled⟩⟩

theorem nearSide_isOk {extent : Int} (positive : 0 < extent) : (nearSide extent).IsOk :=
  ⟨_, nearSide_eq_ok.mpr ⟨by unfold i32Min; omega, rfl⟩⟩

theorem entryPoint_isOk (leaving : size.Positive) (entering : target.Positive) :
    (entryPoint edge size target nextX nextY).IsOk := by
  obtain ⟨acrossX, widths⟩ : (alongEdge nextX size.width target.width).IsOk :=
    alongEdge_isOk leaving.1 entering.1
  obtain ⟨acrossY, heights⟩ : (alongEdge nextY size.height target.height).IsOk :=
    alongEdge_isOk leaving.2 entering.2
  obtain ⟨nearX, left⟩ := nearSide_isOk entering.1
  obtain ⟨nearY, top⟩ := nearSide_isOk entering.2
  cases edge with
  | left => exact ⟨(farSide target.width, acrossY), by simp [entryPoint, heights]⟩
  | right => exact ⟨(nearX, acrossY), by simp [entryPoint, left, heights]⟩
  | top => exact ⟨(acrossX, farSide target.height), by simp [entryPoint, widths]⟩
  | bottom => exact ⟨(acrossX, nearY), by simp [entryPoint, widths, top]⟩

theorem crossedEdge_isOk (positive : size.Positive) : (crossedEdge size x y dx dy).IsOk := by
  simp only [crossedEdge, checkedPred_of_pos positive.1, checkedPred_of_pos positive.2,
    Outcome.ok_bind]
  split_ifs <;> exact ⟨_, rfl⟩

theorem crossedEdge_eq_left (border : x = 0) (outward : dx < 0) :
    crossedEdge size x y dx dy = .ok (some .left) := by
  simp [crossedEdge, border, outward]

theorem crossedEdge_eq_right (positive : size.Positive) (border : x = size.width - 1)
    (outward : 0 < dx) : crossedEdge size x y dx dy = .ok (some .right) := by
  have inward : ¬ (x = 0 ∧ dx < 0) := by omega
  rw [crossedEdge, if_neg inward, checkedPred_of_pos positive.1, Outcome.ok_bind,
    if_pos ⟨border, outward⟩]
  rfl

/-- The border that is taken is the one pushed out of, where a motion out of the top or bottom does
not leave by a side as well. -/
theorem crossedEdge_of_outward (positive : size.Positive) (border : OnBorder size x y edge)
    (outward : Outward dx dy edge)
    (straight : edge = .top ∨ edge = .bottom →
      ¬ (x = 0 ∧ dx < 0) ∧ ¬ (x = size.width - 1 ∧ 0 < dx)) :
    crossedEdge size x y dx dy = .ok (some edge) := by
  cases edge with
  | left => exact crossedEdge_eq_left border outward
  | right => exact crossedEdge_eq_right positive border outward
  | top =>
      obtain ⟨notLeft, notRight⟩ := straight (Or.inl rfl)
      rw [crossedEdge, if_neg notLeft, checkedPred_of_pos positive.1, Outcome.ok_bind,
        if_neg notRight, if_pos ⟨border, outward⟩]
      rfl
  | bottom =>
      obtain ⟨notLeft, notRight⟩ := straight (Or.inr rfl)
      have downward : 0 < dy := outward
      have notTop : ¬ (y = 0 ∧ dy < 0) := by omega
      rw [crossedEdge, if_neg notLeft, checkedPred_of_pos positive.1, Outcome.ok_bind,
        if_neg notRight, if_neg notTop, checkedPred_of_pos positive.2, Outcome.ok_bind,
        if_pos ⟨border, outward⟩]
      rfl

theorem reachedEdge_isOk (positive : size.Positive) :
    (reachedEdge size nextX nextY dx dy).IsOk := by
  simp only [reachedEdge, checkedPred_of_pos positive.1, checkedPred_of_pos positive.2,
    Outcome.ok_bind]
  split_ifs <;> exact ⟨_, rfl⟩

theorem settle_isOk (positive : size.Positive) :
    (router.settle size nextX nextY dx dy).IsOk :=
  (clampInto_isOk.mpr positive).bind fun _ _ => ⟨_, rfl⟩

/-- Motions over screens with positive sizes return a route. -/
theorem routeMotionInner_isOk (sized : router.topology.Sized)
    (listed : (router.topology.find router.active).isSome) :
    (router.routeMotionInner dx dy timestampMicros).IsOk := by
  obtain ⟨node, found⟩ := Option.isSome_iff_exists.mp listed
  have positive := sized.of_find found
  have measured : router.screenSize router.active = .ok node.effectiveSize :=
    screenSize_eq_ok.mpr ⟨node, found, rfl⟩
  simp only [routeMotionInner, measured, Outcome.ok_bind]
  refine (crossedEdge_isOk positive).bind fun crossed _ => ?_
  split
  · rename_i edge target selected
    obtain ⟨_, _, mapped⟩ := Option.bind_eq_some_iff.mp selected
    obtain ⟨_, linked, same⟩ := Option.map_eq_some_iff.mp mapped
    cases same
    obtain ⟨targetNode, targetFound⟩ :=
      Option.isSome_iff_exists.mp (isSome_find_of_linkedEdge linked)
    have targetMeasured (barrier : EdgeBarrier Edge) :
        { router with barrier }.screenSize target.screenId = .ok targetNode.effectiveSize :=
      screenSize_eq_ok.mpr ⟨targetNode, targetFound, rfl⟩
    simp only [pressEdge, targetMeasured, Outcome.ok_bind]
    split_ifs
    · exact (entryPoint_isOk positive (sized.of_find targetFound)).bind fun _ _ => ⟨_, rfl⟩
    · exact settle_isOk positive
  · exact (reachedEdge_isOk positive).bind fun _ _ => settle_isOk positive

theorem enter_returns {topology : ScreenTopology} {active : ScreenId} (sized : topology.Sized)
    (result : Int × Int → TopologyRouter) :
    (do
      let size ← activeSize topology active
      let point ← clampInto size x y
      pure (result point)).Returns := by
  refine Outcome.Returns.bind ?_ fun size measured => ?_
  · exact Outcome.returns_ofOption.bind fun _ _ => Outcome.returns_ok
  · obtain ⟨node, found, rfl⟩ := activeSize_eq_ok.mp measured
    exact ((clampInto_isOk.mpr (sized.of_find found)).bind fun _ _ => ⟨_, rfl⟩).returns

/-- Over screens with positive sizes every call succeeds or is refused. -/
theorem command_isOk {called : RouterCommand} (sized : router.topology.Sized)
    (listed : (router.topology.find router.active).isSome)
    (within : called.Within ScreenTopology.Sized) : (router.command called).IsOk := by
  have kept {outcome : Outcome String TopologyRouter} (returns : outcome.Returns) :
      (router.orUnchanged outcome).IsOk := by
    cases outcome with
    | ok next => exact ⟨_, rfl⟩
    | err error => exact ⟨_, rfl⟩
    | panic message => exact absurd returns Outcome.not_returns_panic
  cases called with
  | setPosition active x y => exact kept (enter_returns sized _)
  | replaceTopology topology =>
      exact kept (topology.validate_returns.bind fun _ valid => enter_returns (within valid) _)
  | routeMotion dx dy => exact (routeMotionInner_isOk sized listed).bind fun _ _ => ⟨_, rfl⟩
  | routeMotionAt dx dy timestampMicros =>
      exact (routeMotionInner_isOk sized listed).bind fun _ _ => ⟨_, rfl⟩

/-- The router is on a screen of a topology whose screens have positive sizes. -/
structure Placed (router : TopologyRouter) : Prop where
  sized : router.topology.Sized
  listed : (router.topology.find router.active).isSome

theorem command_placed {called : RouterCommand} {routes : List TopologyRoute}
    (placed : router.Placed) (within : called.Within ScreenTopology.Sized)
    (commanded : router.command called = .ok (routes, next)) : next.Placed := by
  rcases command_cases commanded with ⟨_, rfl⟩ | ⟨active, _, _, _, _, moved⟩ |
    ⟨topology, rfl, _, replaced⟩ | ⟨_, _, _, _, _, _, routed⟩
  · exact placed
  · obtain ⟨sameTopology, rfl⟩ := setPosition_eq_ok moved
    refine ⟨sameTopology ▸ placed.sized, ?_⟩
    simp only [setPosition, Outcome.bind_eq_ok, activeSize_eq_ok] at moved
    obtain ⟨_, ⟨node, found, _⟩, _⟩ := moved
    rw [sameTopology, found]
    rfl
  · obtain ⟨rfl, sameActive, valid, listed⟩ := replaceTopology_eq_ok replaced
    exact ⟨within (ScreenTopology.validate_eq_ok.mpr valid), sameActive ▸ listed⟩
  · obtain ⟨sameTopology, ⟨_, sameActive⟩ | ⟨_, target, _, _, linked, _, arrives⟩⟩ :=
      routeMotionInner_cases routed
    · exact ⟨sameTopology ▸ placed.sized, by rw [sameTopology, sameActive]; exact placed.listed⟩
    · refine ⟨sameTopology ▸ placed.sized, ?_⟩
      rw [sameTopology, arrives]
      exact isSome_find_of_linkedEdge linked

/-- Whatever topologies are in use, no sequence of calls panics exactly when all screens of these
topologies have positive sizes. -/
theorem calls_return_iff {Used : ScreenTopology → Prop}
    (valid : ∀ topology, Used topology → topology.validate = .ok ()) :
    (∀ topology active x y commands, Used topology → (topology.find active).isSome →
      (∀ called ∈ commands, called.Within Used) →
        (do
          let router ← new topology active x y
          Machine.run command router commands).Returns) ↔
      ∀ topology, Used topology → topology.Sized := by
  constructor
  · intro returns topology used node member
    by_contra empty
    have wellFormed := ScreenTopology.validate_eq_ok.mp (valid topology used)
    have found := wellFormed.find_of_mem member
    obtain ⟨message, panics⟩ := clampInto_panics node.effectiveSize 0 0 empty
    have returned := returns topology node.screenId 0 0 [] used (by rw [found]; rfl) (by simp)
    have measured : activeSize topology node.screenId = .ok node.effectiveSize :=
      activeSize_eq_ok.mpr ⟨node, found, rfl⟩
    simp [new, valid topology used, measured, panics] at returned
  · intro sized topology active x y commands used listed within
    have router_returns : (new topology active x y).Returns :=
      topology.validate_returns.bind fun _ _ => enter_returns (sized topology used) _
    refine router_returns.bind fun router built => ?_
    obtain ⟨rfl, rfl, _, _⟩ := new_eq_ok built
    have admissible (called : RouterCommand) (member : called ∈ commands) :
        called.Within ScreenTopology.Sized := by
      have taken := within called member
      cases called with
      | replaceTopology topology => exact fun valid => sized topology (taken valid)
      | setPosition | routeMotion | routeMotionAt => trivial
    have succeeds {state : TopologyRouter} {called : RouterCommand} (placed : state.Placed)
        (within : called.Within ScreenTopology.Sized) : (state.command called).IsOk :=
      command_isOk placed.sized placed.listed within
    have kept {state next : TopologyRouter} {called : RouterCommand} {routes : List TopologyRoute}
        (placed : state.Placed) (within : called.Within ScreenTopology.Sized)
        (commanded : state.command called = .ok (routes, next)) : next.Placed :=
      command_placed placed within commanded
    exact (Machine.run_isOk succeeds kept ⟨sized _ used, listed⟩ admissible).returns

theorem calls_return_sample :
    (do
      let router ← new (sampleTopology true) ⟨"local"⟩ (-5) 200
      Machine.run command router [.routeMotion i32Max i32Min, .setPosition ⟨"remote"⟩ i32Min 0,
        .routeMotionAt (-1) 0 u64Max, .replaceTopology (sampleTopology true)]).Returns := by
  have valid (topology : ScreenTopology) (used : topology = sampleTopology true) :
      topology.validate = .ok () := by
    rw [used]
    rfl
  have sized : (sampleTopology true).Sized := by decide
  refine (calls_return_iff valid).mpr (fun topology used => used ▸ sized) _ _ _ _ _ rfl rfl ?_
  simp [RouterCommand.Within]

/-- An edited layout gives a valid topology with an empty screen, and building a router on that
screen panics. -/
theorem empty_screen_panics :
    ∃ layout topology,
      (default : ScreenLayout).apply sampleInventory
          (.setSizeOverride ⟨"local"⟩ (some ⟨0, 100⟩)) = .ok layout ∧
        layout.resolve sampleInventory = .ok topology ∧ topology.validate = .ok () ∧
        (topology.find ⟨"local"⟩).isSome ∧
        new topology ⟨"local"⟩ 0 0 = .panic "assertion failed: min <= max" :=
  ⟨_, _, rfl, rfl, rfl, rfl, rfl⟩

/-! ## Staying on the screen -/

/-- The cursor is on the active screen. -/
def Inside (router : TopologyRouter) : Prop :=
  ∃ node, router.topology.find router.active = some node ∧
    node.effectiveSize.Contains router.x router.y

/-- A crossing enters its target at a position on it. -/
def EntersInside (topology : ScreenTopology) : TopologyRoute → Prop
  | .stay .. => True
  | .cross target x y =>
      ∃ node, topology.find target = some node ∧ node.effectiveSize.Contains x y

/-- A call leaves the cursor on its screen and crosses only to positions on the target. -/
def StaysInside (router : TopologyRouter) (called : RouterCommand) : Prop :=
  ∀ routes next, router.command called = .ok (routes, next) →
    next.Inside ∧ ∀ route ∈ routes, EntersInside next.topology route

/-- One pixel inside the far side of a screen is on the screen. -/
def HasRoom (target : ScreenSize) : Edge → Prop
  | .left => 2 ≤ target.width
  | .top => 2 ≤ target.height
  | .right | .bottom => True

/-- A motion over a left or top border does not cross into a screen of extent one. -/
def Roomy (router : TopologyRouter) (called : RouterCommand) : Prop :=
  ∀ dx dy timestampMicros node edge target targetNode,
    called.motion = some (dx, dy, timestampMicros) →
    router.topology.find router.active = some node →
    router.GivesWay node.effectiveSize dx dy timestampMicros edge target →
    router.topology.find target.screenId = some targetNode →
    HasRoom targetNode.effectiveSize edge

theorem clampInto_contains (clamped : clampInto size nextX nextY = .ok (x, y)) :
    size.Contains x y := by
  simp only [clampInto, Outcome.bind_eq_ok, checkedPred_eq_ok, clamp_eq_ok, Outcome.pure_eq,
    Outcome.ok.injEq, Prod.mk.injEq] at clamped
  obtain ⟨_, ⟨_, rfl⟩, _, ⟨width, rfl⟩, _, ⟨_, rfl⟩, _, ⟨height, rfl⟩, rfl, rfl⟩ := clamped
  constructor <;> omega

theorem scaleAxis_range {value fromExtent toExtent result : Int}
    (scaled : scaleAxis value fromExtent toExtent = .ok result) :
    0 ≤ result ∧ result < toExtent := by
  unfold scaleAxis at scaled
  split_ifs at scaled
  simp only [Outcome.bind_eq_ok, checkedPred_eq_ok, clamp_eq_ok] at scaled
  obtain ⟨_, ⟨_, rfl⟩, bounds, rfl⟩ := scaled
  omega

/-- A screen is entered at a position on it exactly when it has room behind its far side. -/
theorem entryPoint_contains_iff (positive : target.Positive)
    (entered : entryPoint edge size target nextX nextY = .ok (x, y)) :
    target.Contains x y ↔ HasRoom target edge := by
  have far {extent : Int} : 0 < extent →
      ((0 ≤ farSide extent ∧ farSide extent < extent) ↔ 2 ≤ extent) := by
    unfold farSide saturatingSub saturate i32Min i32Max
    omega
  have near {extent : Int} : 0 < extent → 0 ≤ min 1 (extent - 1) ∧ min 1 (extent - 1) < extent := by
    omega
  obtain ⟨width, height⟩ := positive
  cases edge with
  | left =>
      simp only [entryPoint, Outcome.bind_eq_ok, alongEdge_eq_ok, Outcome.pure_eq, Outcome.ok.injEq,
        Prod.mk.injEq] at entered
      obtain ⟨_, ⟨_, _, scaled⟩, rfl, rfl⟩ := entered
      exact ⟨fun inside => (far width).mp inside.horizontal, fun room =>
        ⟨(far width).mpr room, scaleAxis_range scaled⟩⟩
  | right =>
      simp only [entryPoint, Outcome.bind_eq_ok, alongEdge_eq_ok, nearSide_eq_ok, Outcome.pure_eq,
        Outcome.ok.injEq, Prod.mk.injEq] at entered
      obtain ⟨_, ⟨_, rfl⟩, _, ⟨_, _, scaled⟩, rfl, rfl⟩ := entered
      exact iff_of_true ⟨near width, scaleAxis_range scaled⟩ trivial
  | top =>
      simp only [entryPoint, Outcome.bind_eq_ok, alongEdge_eq_ok, Outcome.pure_eq, Outcome.ok.injEq,
        Prod.mk.injEq] at entered
      obtain ⟨_, ⟨_, _, scaled⟩, rfl, rfl⟩ := entered
      exact ⟨fun inside => (far height).mp inside.vertical, fun room =>
        ⟨scaleAxis_range scaled, (far height).mpr room⟩⟩
  | bottom =>
      simp only [entryPoint, Outcome.bind_eq_ok, alongEdge_eq_ok, nearSide_eq_ok, Outcome.pure_eq,
        Outcome.ok.injEq, Prod.mk.injEq] at entered
      obtain ⟨_, ⟨_, _, scaled⟩, _, ⟨_, rfl⟩, rfl, rfl⟩ := entered
      exact iff_of_true ⟨scaleAxis_range scaled, near height⟩ trivial

theorem new_inside {topology : ScreenTopology} {active : ScreenId}
    (built : new topology active x y = .ok router) : router.Inside := by
  simp only [new, Outcome.bind_eq_ok, activeSize_eq_ok, Outcome.pure_eq, Outcome.ok.injEq] at built
  obtain ⟨_, _, _, ⟨node, found, rfl⟩, _, clamped, rfl⟩ := built
  exact ⟨node, found, clampInto_contains clamped⟩

theorem setPosition_inside {active : ScreenId} (moved : router.setPosition active x y = .ok next) :
    next.Inside := by
  simp only [setPosition, Outcome.bind_eq_ok, activeSize_eq_ok, Outcome.pure_eq,
    Outcome.ok.injEq] at moved
  obtain ⟨_, ⟨node, found, rfl⟩, _, clamped, rfl⟩ := moved
  exact ⟨node, found, clampInto_contains clamped⟩

theorem replaceTopology_inside {topology : ScreenTopology}
    (replaced : router.replaceTopology topology = .ok next) : next.Inside := by
  simp only [replaceTopology, Outcome.bind_eq_ok, activeSize_eq_ok, Outcome.pure_eq,
    Outcome.ok.injEq] at replaced
  obtain ⟨_, _, _, ⟨node, found, rfl⟩, _, clamped, rfl⟩ := replaced
  exact ⟨node, found, clampInto_contains clamped⟩

/-- A motion leaves the cursor on its screen exactly when no barrier that gives way leads into a
screen without room. -/
theorem routeMotionInner_inside_iff {route : TopologyRoute} (sized : router.topology.Sized)
    (routed : router.routeMotionInner dx dy timestampMicros = .ok (route, next)) :
    (next.Inside ∧ EntersInside next.topology route) ↔
      ∀ node edge target targetNode, router.topology.find router.active = some node →
        router.GivesWay node.effectiveSize dx dy timestampMicros edge target →
        router.topology.find target.screenId = some targetNode →
        HasRoom targetNode.effectiveSize edge := by
  obtain ⟨node, found, moves⟩ := routeMotionInner_moves routed
  cases moves with
  | stay next topology active holds clamped =>
      refine iff_of_true ⟨⟨node, ?_, clampInto_contains clamped⟩, trivial⟩ ?_
      · rw [topology, active, found]
      · intro other edge target _ otherFound gives
        obtain rfl := Option.some.inj (found.symm.trans otherFound)
        exact absurd gives (holds edge target)
  | cross edge target targetNode next topology active gives targetFound entered =>
      have contains_iff := entryPoint_contains_iff (sized.of_find targetFound) entered
      constructor
      · rintro ⟨_, targetNode, enteredFound, contains⟩ other otherEdge otherTarget otherTargetNode
          otherFound otherGives otherTargetFound
        obtain rfl := Option.some.inj (found.symm.trans otherFound)
        obtain ⟨rfl, rfl⟩ := gives.unique otherGives
        obtain rfl := Option.some.inj (targetFound.symm.trans otherTargetFound)
        rw [topology, targetFound] at enteredFound
        obtain rfl := Option.some.inj enteredFound
        exact contains_iff.mp contains
      · intro room
        have contains := contains_iff.mpr (room node edge target targetNode found gives targetFound)
        have arrived : next.topology.find target.screenId = some targetNode := by
          rw [topology, targetFound]
        exact ⟨⟨targetNode, by rw [active, arrived], contains⟩, targetNode, arrived, contains⟩

/-- A call that does not move the cursor by a route keeps it on its screen. -/
theorem staysInside_of_still {called : RouterCommand} (inside : router.Inside)
    (still : called.motion = none) : router.StaysInside called ↔ router.Roomy called := by
  refine iff_of_true (fun routes next commanded => ?_) fun _ _ _ _ _ _ _ moves => ?_
  · rcases command_cases commanded with ⟨rfl, rfl⟩ | ⟨_, _, _, _, rfl, moved⟩ |
      ⟨_, _, rfl, replaced⟩ | ⟨_, _, _, _, moves, _⟩
    · exact ⟨inside, by simp⟩
    · exact ⟨setPosition_inside moved, by simp⟩
    · exact ⟨replaceTopology_inside replaced, by simp⟩
    · simp [still] at moves
  · simp [still] at moves

theorem staysInside_of_moves {called : RouterCommand} {dx dy : Int} {timestampMicros : Option Nat}
    (placed : router.Placed) (moves : called.motion = some (dx, dy, timestampMicros))
    (commands : ∀ route next, router.routeMotionInner dx dy timestampMicros = .ok (route, next) →
      router.command called = .ok ([route], next)) :
    router.StaysInside called ↔ router.Roomy called := by
  obtain ⟨⟨route, next⟩, routed⟩ : (router.routeMotionInner dx dy timestampMicros).IsOk :=
    routeMotionInner_isOk placed.sized placed.listed
  have commanded := commands route next routed
  have inside_iff := routeMotionInner_inside_iff placed.sized routed
  constructor
  · intro stays _ _ _ node edge target targetNode again
    obtain ⟨rfl, rfl, rfl⟩ : dx = _ ∧ dy = _ ∧ timestampMicros = _ := by
      simpa using moves.symm.trans again
    obtain ⟨nextInside, enters⟩ := stays _ _ commanded
    exact inside_iff.mp ⟨nextInside, enters route List.mem_cons_self⟩ node edge target targetNode
  · intro roomy routes last again
    obtain ⟨rfl, rfl⟩ : [route] = routes ∧ next = last := by simpa using commanded.symm.trans again
    obtain ⟨nextInside, enters⟩ := inside_iff.mpr fun node edge target targetNode =>
      roomy dx dy timestampMicros node edge target targetNode moves
    exact ⟨nextInside, by simpa using enters⟩

/-- A call leaves the cursor on its screen exactly when it is a roomy one. -/
theorem staysInside_iff (placed : router.Placed) (inside : router.Inside) (called : RouterCommand) :
    router.StaysInside called ↔ router.Roomy called := by
  cases called with
  | setPosition => exact staysInside_of_still inside rfl
  | replaceTopology => exact staysInside_of_still inside rfl
  | routeMotion dx dy =>
      refine staysInside_of_moves placed rfl fun route next routed => ?_
      rw [command, routeMotion, routed]
      rfl
  | routeMotionAt dx dy timestampMicros =>
      refine staysInside_of_moves placed rfl fun route next routed => ?_
      rw [command, routeMotionAt, routed]
      rfl

/-- Over screens with positive sizes the cursor starts on its screen, and all calls leave it there
exactly when they are roomy. -/
theorem stays_inside_iff {topology : ScreenTopology} {active : ScreenId}
    {commands : List RouterCommand} (sized : topology.Sized)
    (built : new topology active x y = .ok router)
    (within : ∀ called ∈ commands, called.Within ScreenTopology.Sized) :
    router.Inside ∧ (Machine.Along command StaysInside router commands ↔
      Machine.Along command Roomy router commands) := by
  have inside := new_inside built
  obtain ⟨rfl, rfl, _, listed⟩ := new_eq_ok built
  have kept {state next : TopologyRouter} {called : RouterCommand} {routes : List TopologyRoute}
      (held : state.Placed ∧ state.Inside) (within : called.Within ScreenTopology.Sized)
      (stays : state.StaysInside called) (commanded : state.command called = .ok (routes, next)) :
      next.Placed ∧ next.Inside :=
    ⟨command_placed held.1 within commanded, (stays routes next commanded).1⟩
  exact ⟨inside, Machine.along_congr (fun held _ => staysInside_iff held.1 held.2 _) kept
    ⟨⟨sized, listed⟩, inside⟩ within⟩

end TopologyRouter

/-- All screens are at least two pixels wide and high. -/
def ScreenTopology.Ample (topology : ScreenTopology) : Prop :=
  ∀ node ∈ topology.screens, 2 ≤ node.effectiveSize.width ∧ 2 ≤ node.effectiveSize.height

instance (topology : ScreenTopology) : Decidable topology.Ample :=
  inferInstanceAs (Decidable (∀ node ∈ topology.screens, _ ∧ _))

namespace TopologyRouter

variable {router next : TopologyRouter}

/-- Over screens of at least two pixels every call is roomy. -/
theorem along_roomy {commands : List RouterCommand} (ample : router.topology.Ample)
    (within : ∀ called ∈ commands, called.Within ScreenTopology.Ample) :
    Machine.Along command Roomy router commands := by
  have holds {state : TopologyRouter} {called : RouterCommand} (ample : state.topology.Ample)
      (_ : called.Within ScreenTopology.Ample) : state.Roomy called := by
    intro _ _ _ _ edge _ _ _ _ _ targetFound
    have room := ample _ (ScreenTopology.find_mem targetFound)
    cases edge with
    | left => exact room.1
    | top => exact room.2
    | right | bottom => trivial
  have kept {state next : TopologyRouter} {called : RouterCommand} {routes : List TopologyRoute}
      (ample : state.topology.Ample) (within : called.Within ScreenTopology.Ample)
      (commanded : state.command called = .ok (routes, next)) : next.topology.Ample := by
    rcases command_cases commanded with ⟨_, rfl⟩ | ⟨_, _, _, _, _, moved⟩ |
      ⟨_, rfl, _, replaced⟩ | ⟨_, _, _, _, _, _, routed⟩
    · exact ample
    · rwa [(setPosition_eq_ok moved).1]
    · obtain ⟨rfl, _, valid, _⟩ := replaceTopology_eq_ok replaced
      exact within (ScreenTopology.validate_eq_ok.mpr valid)
    · rwa [(routeMotionInner_cases routed).1]
  exact Machine.Along.of_invariant holds kept ample (Machine.Along.of_forall within)

theorem stays_inside_round_trip :
    ∃ router, new (sampleTopology true) ⟨"local"⟩ 99 50 = .ok router ∧ router.Inside ∧
      Machine.Along command StaysInside router
        [.routeMotion 8 0, .routeMotion i32Min 3, .routeMotion (-8) 0] := by
  obtain ⟨router, built⟩ :
      ∃ router, new (sampleTopology true) ⟨"local"⟩ 99 50 = .ok router := ⟨_, rfl⟩
  have ample : router.topology.Ample := by
    rw [(new_eq_ok built).1]
    decide
  have motions (Taken : ScreenTopology → Prop) : ∀ called ∈
      [RouterCommand.routeMotion 8 0, .routeMotion i32Min 3, .routeMotion (-8) 0],
      called.Within Taken := by
    simp [RouterCommand.Within]
  obtain ⟨inside, stays_iff⟩ := stays_inside_iff (by decide) built (motions _)
  exact ⟨router, built, inside, stays_iff.mpr (along_roomy ample (motions _))⟩

end TopologyRouter

/-- A screen that is one pixel wide, to the left of the local screen. -/
def sampleNarrow : ScreenTopology where
  revision := 0
  screens := [sampleNode "local" "host" true true,
    { sampleNode "narrow" "peer" true false with logicalSize := { width := 1, height := 100 } }]
  links := [sampleLink "narrow" "local"]

namespace TopologyRouter

/-- The cursor crosses leftwards into a screen that is one pixel wide, and ends up left of it. -/
theorem narrow_screen_missed :
    ∃ router next,
      sampleNarrow.Sized ∧ new sampleNarrow ⟨"local"⟩ 0 50 = .ok router ∧
        router.command (.routeMotion (-8) 0) = .ok ([.cross ⟨"narrow"⟩ (-1) 50], next) ∧
        ¬ EntersInside next.topology (.cross ⟨"narrow"⟩ (-1) 50) ∧ ¬ next.Inside := by
  refine ⟨_, _, by decide, rfl, rfl, ?_, ?_⟩
  · rintro ⟨_, _, inside⟩
    exact absurd inside.horizontal.1 (by decide)
  · rintro ⟨_, _, inside⟩
    exact absurd inside.horizontal.1 (by decide)

end TopologyRouter
end Rflow
