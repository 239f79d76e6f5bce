import Rflow.Core.Session
import Rflow.Foundation.Machine

/-!
# Crossings of the topology router

Every crossing follows a link of the topology from the border that the cursor is pushed out of,
enters one pixel inside the facing border, and can be pushed back over the same link.
-/

namespace Rflow

open Foundation

/-- A call on a router. -/
inductive RouterCommand where
  | setPosition (active : ScreenId) (x y : Int)
  | replaceTopology (topology : ScreenTopology)
  | routeMotion (dx dy : Int)
  | routeMotionAt (dx dy : Int) (timestampMicros : Nat)
  deriving DecidableEq, Repr

/-- The motion of a call, with its time. -/
def RouterCommand.motion : RouterCommand → Option (Int × Int × Option Nat)
  | .routeMotion dx dy => some (dx, dy, none)
  | .routeMotionAt dx dy timestampMicros => some (dx, dy, some timestampMicros)
  | .setPosition .. | .replaceTopology _ => none

namespace TopologyRouter

/-- A call that returned an error has left the router as it was. -/
def orUnchanged (router : TopologyRouter) :
    Outcome String TopologyRouter → Outcome String (List TopologyRoute × TopologyRouter)
  | .ok next => .ok ([], next)
  | .err _ => .ok ([], router)
  | .panic message => .panic message

/-- Make one call; motions give a route. -/
def command (router : TopologyRouter) :
    RouterCommand → Outcome String (List TopologyRoute × TopologyRouter)
  | .setPosition active x y => router.orUnchanged (router.setPosition active x y)
  | .replaceTopology topology => router.orUnchanged (router.replaceTopology topology)
  | .routeMotion dx dy => do
      let (route, next) ← router.routeMotion dx dy
      pure ([route], next)
  | .routeMotionAt dx dy timestampMicros => do
      let (route, next) ← router.routeMotionAt dx dy timestampMicros
      pure ([route], next)

variable {router next : TopologyRouter} {size target : ScreenSize} {edge : Edge}
  {x y dx dy nextX nextY : Int} {timestampMicros : Option Nat} {route : TopologyRoute}

/-! ## Borders -/

/-- The cursor is on a border of its screen. -/
def OnBorder (size : ScreenSize) (x y : Int) : Edge → Prop
  | .left => x = 0
  | .right => x = size.width - 1
  | .top => y = 0
  | .bottom => y = size.height - 1

/-- A motion has a component out of a border. -/
def Outward (dx dy : Int) : Edge → Prop
  | .left => dx < 0
  | .right => 0 < dx
  | .top => dy < 0
  | .bottom => 0 < dy

theorem crossedEdge_eq_some (crossed : crossedEdge size x y dx dy = .ok (some edge)) :
    OnBorder size x y edge ∧ Outward dx dy edge := by
  unfold crossedEdge at crossed
  by_cases left : x = 0 ∧ dx < 0
  · rw [if_pos left] at crossed
    obtain rfl := Option.some.inj (Outcome.ok.inj crossed)
    exact left
  rw [if_neg left, Outcome.bind_eq_ok] at crossed
  obtain ⟨_, last, crossed⟩ := crossed
  obtain ⟨_, rfl⟩ := checkedPred_eq_ok.mp last
  by_cases right : x = size.width - 1 ∧ 0 < dx
  · rw [if_pos right] at crossed
    obtain rfl := Option.some.inj (Outcome.ok.inj crossed)
    exact right
  rw [if_neg right] at crossed
  by_cases top : y = 0 ∧ dy < 0
  · rw [if_pos top] at crossed
    obtain rfl := Option.some.inj (Outcome.ok.inj crossed)
    exact top
  rw [if_neg top, Outcome.bind_eq_ok] at crossed
  obtain ⟨_, last, crossed⟩ := crossed
  obtain ⟨_, rfl⟩ := checkedPred_eq_ok.mp last
  by_cases bottom : y = size.height - 1 ∧ 0 < dy
  · rw [if_pos bottom] at crossed
    obtain rfl := Option.some.inj (Outcome.ok.inj crossed)
    exact bottom
  · rw [if_neg bottom] at crossed
    cases Outcome.ok.inj crossed

/-! ## Entry points -/

/-- A coordinate is on the axis along an edge. -/
def along (edge : Edge) (x y : Int) : Int :=
  match edge with
  | .left | .right => y
  | .top | .bottom => x

/-- The extent of a screen along an edge. -/
def alongExtent (edge : Edge) (size : ScreenSize) : Int := along edge size.width size.height

/-- The extent of a screen across an edge. -/
def acrossExtent (edge : Edge) (size : ScreenSize) : Int := along edge size.height size.width

/-- A coordinate is one pixel inside a border. -/
def OnePixelInside (size : ScreenSize) (x y : Int) : Edge → Prop
  | .left => x = 1
  | .right => x = size.width - 2
  | .top => y = 1
  | .bottom => y = size.height - 2

/-- The cursor enters a screen across from an edge: one pixel inside the facing border when there is
room, and at the mapped coordinate along it.  Extents are `i32` values. -/
structure EntersAt (edge : Edge) (size target : ScreenSize) (nextX nextY x y : Int) : Prop where
  inside : 2 ≤ acrossExtent edge target → acrossExtent edge target ≤ i32Max →
    OnePixelInside target x y edge.opposite
  mapped : scaleAxis (max 0 (min (alongExtent edge size - 1) (along edge nextX nextY)))
    (alongExtent edge size) (alongExtent edge target) = .ok (along edge x y)

theorem alongEdge_eq_ok {next fromExtent toExtent value : Int} :
    alongEdge next fromExtent toExtent = .ok value ↔
      i32Min < fromExtent ∧ 0 ≤ fromExtent - 1 ∧
        scaleAxis (max 0 (min (fromExtent - 1) next)) fromExtent toExtent = .ok value := by
  simp only [alongEdge, Outcome.bind_eq_ok, checkedPred_eq_ok, clamp_eq_ok]
  constructor
  · rintro ⟨_, ⟨lower, rfl⟩, _, ⟨bounds, rfl⟩, scaled⟩
    exact ⟨lower, bounds, scaled⟩
  · rintro ⟨lower, bounds, scaled⟩
    exact ⟨_, ⟨lower, rfl⟩, _, ⟨bounds, rfl⟩, scaled⟩

theorem farSide_eq {extent : Int} (room : 2 ≤ extent) (fits : extent ≤ i32Max) :
    farSide extent = extent - 2 := by
  unfold farSide saturatingSub saturate i32Min
  unfold i32Max at *
  omega

theorem nearSide_eq_ok {extent value : Int} :
    nearSide extent = .ok value ↔ i32Min < extent ∧ value = min 1 (extent - 1) := by
  simp only [nearSide, Outcome.bind_eq_ok, checkedPred_eq_ok, Outcome.pure_eq, Outcome.ok.injEq]
  constructor
  · rintro ⟨_, ⟨lower, rfl⟩, rfl⟩
    exact ⟨lower, rfl⟩
  · rintro ⟨lower, rfl⟩
    exact ⟨_, ⟨lower, rfl⟩, rfl⟩

theorem entryPoint_entersAt (entered : entryPoint edge size target nextX nextY = .ok (x, y)) :
    EntersAt edge size target nextX nextY x y := by
  cases edge with
  | left =>
      simp only [entryPoint, Outcome.bind_eq_ok, alongEdge_eq_ok, Outcome.pure_eq, Outcome.ok.injEq,
        Prod.mk.injEq] at entered
      obtain ⟨_, ⟨_, _, scaled⟩, rfl, rfl⟩ := entered
      exact ⟨farSide_eq, scaled⟩
  | right =>
      simp only [entryPoint, Outcome.bind_eq_ok, alongEdge_eq_ok, nearSide_eq_ok, Outcome.pure_eq,
        Outcome.ok.injEq, Prod.mk.injEq] at entered
      obtain ⟨_, ⟨_, rfl⟩, _, ⟨_, _, scaled⟩, rfl, rfl⟩ := entered
      refine ⟨fun room _ => ?_, scaled⟩
      exact min_eq_left (by simpa [acrossExtent, along] using Int.le_sub_one_of_lt room)
  | top =>
      simp only [entryPoint, Outcome.bind_eq_ok, alongEdge_eq_ok, Outcome.pure_eq, Outcome.ok.injEq,
        Prod.mk.injEq] at entered
      obtain ⟨_, ⟨_, _, scaled⟩, rfl, rfl⟩ := entered
      exact ⟨farSide_eq, scaled⟩
  | bottom =>
      simp only [entryPoint, Outcome.bind_eq_ok, alongEdge_eq_ok, nearSide_eq_ok, Outcome.pure_eq,
        Outcome.ok.injEq, Prod.mk.injEq] at entered
      obtain ⟨_, ⟨_, _, scaled⟩, _, ⟨_, rfl⟩, rfl, rfl⟩ := entered
      refine ⟨fun room _ => ?_, scaled⟩
      exact min_eq_left (by simpa [acrossExtent, along] using Int.le_sub_one_of_lt room)

/-! ## One motion -/

theorem screenSize_eq_ok {id : ScreenId} :
    router.screenSize id = .ok size ↔
      ∃ node, router.topology.find id = some node ∧ size = node.effectiveSize := by
  unfold screenSize
  cases router.topology.find id with
  | none => simp
  | some node => simp [eq_comm]

/-- The cursor is pushed out of a border whose link leads to a target, and the barrier gives way. -/
structure GivesWay (router : TopologyRouter) (size : ScreenSize) (dx dy : Int)
    (timestampMicros : Option Nat) (edge : Edge) (target : ScreenEdge) : Prop where
  crossed : crossedEdge size router.x router.y dx dy = .ok (some edge)
  linked : router.linkedEdge edge = some target
  given : (pressBarrier router.barrier edge dx dy timestampMicros).1 = true

/-- What a motion of the cursor on a screen of some size does: the cursor stays on the screen, or
crosses from the border that it is pushed out of to the screen behind it. -/
inductive Moves (router : TopologyRouter) (size : ScreenSize) (dx dy : Int)
    (timestampMicros : Option Nat) : TopologyRoute → TopologyRouter → Prop
  | stay (next : TopologyRouter) (topology : next.topology = router.topology)
      (active : next.active = router.active)
      (holds : ∀ edge target, ¬ router.GivesWay size dx dy timestampMicros edge target)
      (clamped : clampInto size (saturatingAdd router.x dx) (saturatingAdd router.y dy) =
        .ok (next.x, next.y)) :
      Moves router size dx dy timestampMicros (.stay router.active dx dy) next
  | cross (edge : Edge) (target : ScreenEdge) (targetNode : ScreenNode) (next : TopologyRouter)
      (topology : next.topology = router.topology) (active : next.active = target.screenId)
      (gives : router.GivesWay size dx dy timestampMicros edge target)
      (found : router.topology.find target.screenId = some targetNode)
      (entered : entryPoint edge size targetNode.effectiveSize (saturatingAdd router.x dx)
        (saturatingAdd router.y dy) = .ok (next.x, next.y)) :
      Moves router size dx dy timestampMicros (.cross target.screenId next.x next.y) next

theorem settle_moves (barrier : EdgeBarrier Edge)
    (holds : ∀ edge target, ¬ router.GivesWay size dx dy timestampMicros edge target)
    (settled : { router with barrier }.settle size (saturatingAdd router.x dx)
      (saturatingAdd router.y dy) dx dy = .ok (route, next)) :
    Moves router size dx dy timestampMicros route next := by
  simp only [settle, Outcome.bind_eq_ok, Outcome.pure_eq, Outcome.ok.injEq,
    Prod.mk.injEq] at settled
  obtain ⟨⟨x, y⟩, clamped, rfl, rfl⟩ := settled
  exact .stay { router with barrier, x, y } rfl rfl holds clamped

/-- A border gives way in one direction only. -/
theorem GivesWay.unique {other : Edge} {far otherFar : ScreenEdge}
    (first : router.GivesWay size dx dy timestampMicros edge far)
    (second : router.GivesWay size dx dy timestampMicros other otherFar) :
    edge = other ∧ far = otherFar := by
  obtain rfl := Option.some.inj (Outcome.ok.inj (first.crossed.symm.trans second.crossed))
  exact ⟨rfl, Option.some.inj (first.linked.symm.trans second.linked)⟩

theorem routeMotionInner_moves
    (routed : router.routeMotionInner dx dy timestampMicros = .ok (route, next)) :
    ∃ node, router.topology.find router.active = some node ∧
      Moves router node.effectiveSize dx dy timestampMicros route next := by
  simp only [routeMotionInner, Outcome.bind_eq_ok, screenSize_eq_ok] at routed
  obtain ⟨_, ⟨node, found, rfl⟩, crossed, crosses, routed⟩ := routed
  refine ⟨node, found, ?_⟩
  split at routed
  · rename_i edge target selected
    obtain ⟨_, rfl, mapped⟩ := Option.bind_eq_some_iff.mp selected
    obtain ⟨_, linked, same⟩ := Option.map_eq_some_iff.mp mapped
    cases same
    simp only [pressEdge] at routed
    cases given : (pressBarrier router.barrier edge dx dy timestampMicros).1 <;>
      simp only [given, if_true, Bool.false_eq_true, if_false] at routed
    · refine settle_moves _ (fun other far gives => ?_) routed
      obtain rfl := Option.some.inj (Outcome.ok.inj (crosses.symm.trans gives.crossed))
      cases given.symm.trans gives.given
    · simp only [Outcome.bind_eq_ok, screenSize_eq_ok, Outcome.pure_eq, Outcome.ok.injEq,
        Prod.mk.injEq] at routed
      obtain ⟨_, ⟨targetNode, targetFound, rfl⟩, ⟨x, y⟩, entered, rfl, rfl⟩ := routed
      exact .cross edge target targetNode
        { topology := router.topology, active := target.screenId, x, y, barrier := _ }
        rfl rfl ⟨crosses, linked, given⟩ targetFound entered
  · rename_i none
    simp only [moveInside, Outcome.bind_eq_ok] at routed
    obtain ⟨_, _, routed⟩ := routed
    refine settle_moves _ (fun other far gives => ?_) routed
    obtain rfl := Outcome.ok.inj (crosses.symm.trans gives.crossed)
    simp [gives.linked] at none

end TopologyRouter

/-! ## Links -/

/-- A link joins two edges, in either direction. -/
def ScreenLink.Joins (link : ScreenLink) (one other : ScreenEdge) : Prop :=
  (link.fromEdge = one ∧ link.toEdge = other) ∨ (link.toEdge = one ∧ link.fromEdge = other)

theorem ScreenLink.Joins.symm {link : ScreenLink} {one other : ScreenEdge}
    (joins : link.Joins one other) : link.Joins other one :=
  joins.elim (fun ⟨leaving, entering⟩ => Or.inr ⟨entering, leaving⟩)
    fun ⟨leaving, entering⟩ => Or.inl ⟨entering, leaving⟩

theorem ScreenLink.Joins.facing {link : ScreenLink} {one other : ScreenEdge}
    (joins : link.Joins one other) (facing : link.Facing) : other.edge = one.edge.opposite := by
  rcases joins with ⟨rfl, rfl⟩ | ⟨rfl, rfl⟩
  · exact facing.symm
  · rw [← facing, Edge.opposite_opposite]

namespace TopologyRouter

variable {router next : TopologyRouter} {edge : Edge} {dx dy : Int} {timestampMicros : Option Nat}

/-- A link at an edge of the active screen is the one that the edge leads over, as no other link has
that edge. -/
theorem linkedEdge_of_joins (wellFormed : router.topology.WellFormed) {link : ScreenLink}
    {target : ScreenEdge} (member : link ∈ router.topology.links)
    (joins : link.Joins { screenId := router.active, edge } target)
    (online : router.isOnline target.screenId = true) : router.linkedEdge edge = some target := by
  obtain ⟨front, back, split⟩ := List.append_of_mem member
  have exclusive := wellFormed.links.exclusive
  rw [split, List.flatMap_append, List.flatMap_cons] at exclusive
  have source : { screenId := router.active, edge } ∈ link.endpoints := by
    rcases joins with ⟨leaving, _⟩ | ⟨entering, _⟩
    · simp [ScreenLink.endpoints, leaving]
    · simp [ScreenLink.endpoints, entering]
  refine List.findSome?_eq_some_iff.mpr ⟨front, link, back, split, ?_, fun other early => ?_⟩
  · rcases joins with ⟨leaving, rfl⟩ | ⟨entering, rfl⟩
    · rw [if_pos leaving, if_pos online]
    · have facing := (wellFormed.links.facing link member).edges_ne
      rw [entering] at facing
      rw [if_neg facing, if_pos entering, if_pos online]
  · have apart (endpoint : ScreenEdge) (mine : endpoint ∈ other.endpoints) :
        endpoint ≠ { screenId := router.active, edge } := by
      rintro rfl
      exact (List.nodup_append.mp exclusive).2.2 _ (List.mem_flatMap.mpr ⟨other, early, mine⟩) _
        (List.mem_append_left _ source) rfl
    rw [if_neg (apart _ (by simp [ScreenLink.endpoints])),
      if_neg (apart _ (by simp [ScreenLink.endpoints]))]

/-- What justifies a crossing from the active screen to a target, and what makes it reversible. -/
structure JustifiedCrossing (router : TopologyRouter) (dx dy : Int) (target : ScreenId) (x y : Int)
    (next : TopologyRouter) (edge : Edge) : Prop where
  linked : ∃ link ∈ router.topology.links,
    link.Joins ⟨router.active, edge⟩ ⟨target, edge.opposite⟩
  online : router.isOnline target = true
  arrives : next.topology = router.topology ∧ next.active = target ∧ next.x = x ∧ next.y = y
  border : ∃ node, router.topology.find router.active = some node ∧
    OnBorder node.effectiveSize router.x router.y edge
  outward : Outward dx dy edge
  enters : ∃ node targetNode, router.topology.find router.active = some node ∧
    router.topology.find target = some targetNode ∧
    EntersAt edge node.effectiveSize targetNode.effectiveSize (saturatingAdd router.x dx)
      (saturatingAdd router.y dy) x y
  reversible : router.isOnline router.active = true →
    next.linkedEdge edge.opposite = some ⟨router.active, edge⟩

/-- Over a valid topology every crossing is justified and reversible. -/
theorem justifiedCrossing_of_wellFormed (wellFormed : router.topology.WellFormed)
    {target : ScreenId} {x y : Int}
    (routed : router.routeMotionInner dx dy timestampMicros = .ok (.cross target x y, next)) :
    ∃ edge, router.JustifiedCrossing dx dy target x y next edge := by
  obtain ⟨node, found, moves⟩ := routeMotionInner_moves routed
  cases moves with
  | cross edge targetEdge targetNode next topology active gives targetFound entered =>
      obtain ⟨border, outward⟩ := crossedEdge_eq_some gives.crossed
      obtain ⟨online, link, member, joins⟩ := linkedEdge_eq_some gives.linked
      have joins : link.Joins ⟨router.active, edge⟩ targetEdge := joins
      have facing := joins.facing (wellFormed.links.facing link member)
      obtain ⟨targetId, targetSide⟩ := targetEdge
      obtain rfl : targetSide = edge.opposite := facing
      refine ⟨edge, ⟨link, member, joins⟩, online, ⟨topology, active, rfl, rfl⟩,
        ⟨node, found, border⟩, outward,
        ⟨node, targetNode, found, targetFound, entryPoint_entersAt entered⟩, fun activeOnline => ?_⟩
      have back : link.Joins ⟨next.active, edge.opposite⟩ ⟨router.active, edge⟩ := by
        rw [active]
        exact joins.symm
      exact linkedEdge_of_joins (topology ▸ wellFormed) (topology ▸ member) back
        (by rwa [isOnline, topology])

/-! ## Whole runs -/

theorem orUnchanged_eq_ok {outcome : Outcome String TopologyRouter} {routes : List TopologyRoute} :
    router.orUnchanged outcome = .ok (routes, next) ↔
      routes = [] ∧ (outcome = .ok next ∨ (∃ error, outcome = .err error) ∧ next = router) := by
  cases outcome with
  | ok value => simp [orUnchanged, eq_comm]
  | err error => simp [orUnchanged, eq_comm]
  | panic message => simp [orUnchanged]

/-- What one call does: it places the cursor, takes a topology over, moves, or changes nothing. -/
theorem command_cases {called : RouterCommand} {routes : List TopologyRoute}
    (commanded : router.command called = .ok (routes, next)) :
    (routes = [] ∧ next = router) ∨
      (∃ active x y, called = .setPosition active x y ∧ routes = [] ∧
        router.setPosition active x y = .ok next) ∨
      (∃ topology, called = .replaceTopology topology ∧ routes = [] ∧
        router.replaceTopology topology = .ok next) ∨
      ∃ dx dy timestampMicros route, called.motion = some (dx, dy, timestampMicros) ∧
        routes = [route] ∧ router.routeMotionInner dx dy timestampMicros = .ok (route, next) := by
  cases called with
  | setPosition active x y =>
      obtain ⟨rfl, placed | ⟨_, rfl⟩⟩ := orUnchanged_eq_ok.mp commanded
      · exact Or.inr (Or.inl ⟨active, x, y, rfl, rfl, placed⟩)
      · exact Or.inl ⟨rfl, rfl⟩
  | replaceTopology topology =>
      obtain ⟨rfl, replaced | ⟨_, rfl⟩⟩ := orUnchanged_eq_ok.mp commanded
      · exact Or.inr (Or.inr (Or.inl ⟨topology, rfl, rfl, replaced⟩))
      · exact Or.inl ⟨rfl, rfl⟩
  | routeMotion dx dy =>
      simp only [command, Outcome.bind_eq_ok, Outcome.pure_eq, Outcome.ok.injEq,
        Prod.mk.injEq] at commanded
      obtain ⟨⟨route, _⟩, routed, rfl, rfl⟩ := commanded
      exact Or.inr (Or.inr (Or.inr ⟨dx, dy, none, route, rfl, rfl, routed⟩))
  | routeMotionAt dx dy timestampMicros =>
      simp only [command, Outcome.bind_eq_ok, Outcome.pure_eq, Outcome.ok.injEq,
        Prod.mk.injEq] at commanded
      obtain ⟨⟨route, _⟩, routed, rfl, rfl⟩ := commanded
      exact Or.inr (Or.inr (Or.inr ⟨dx, dy, some timestampMicros, route, rfl, rfl, routed⟩))

/-- A router keeps to valid topologies. -/
theorem command_wellFormed (wellFormed : router.topology.WellFormed) {called : RouterCommand}
    {routes : List TopologyRoute} (commanded : router.command called = .ok (routes, next)) :
    next.topology.WellFormed := by
  rcases command_cases commanded with ⟨_, rfl⟩ | ⟨_, _, _, _, _, placed⟩ | ⟨_, _, _, replaced⟩ |
    ⟨_, _, _, _, _, _, routed⟩
  · exact wellFormed
  · rwa [(setPosition_eq_ok placed).1]
  · obtain ⟨rfl, _, valid, _⟩ := replaceTopology_eq_ok replaced
    exact valid
  · rwa [(routeMotionInner_cases routed).1]

/-- Whatever calls a router has had, a motion that crosses is justified and reversible. -/
theorem crossing_justified {topology : ScreenTopology} {active : ScreenId} {x y : Int}
    {reached : TopologyRouter} {commands : List RouterCommand} {routes : List TopologyRoute}
    {target : ScreenId} {targetX targetY : Int}
    (built : new topology active x y = .ok router)
    (ran : Machine.run command router commands = .ok (routes, reached))
    (routed : reached.routeMotionInner dx dy timestampMicros =
      .ok (.cross target targetX targetY, next)) :
    ∃ edge, reached.JustifiedCrossing dx dy target targetX targetY next edge := by
  obtain ⟨rfl, _, wellFormed, _⟩ := new_eq_ok built
  have kept {state next : TopologyRouter} {called : RouterCommand} {routes : List TopologyRoute}
      (wellFormed : state.topology.WellFormed)
      (commanded : state.command called = .ok (routes, next)) :
      next.topology.WellFormed := command_wellFormed wellFormed commanded
  exact justifiedCrossing_of_wellFormed (Machine.run_preserves kept wellFormed ran) routed

theorem crossing_justified_rightwards :
    ∃ router reached next edge,
      new (sampleTopology true) ⟨"local"⟩ 0 0 = .ok router ∧
        Machine.run command router [.setPosition ⟨"local"⟩ 200 50, .routeMotion 3 0] =
          .ok ([.stay ⟨"local"⟩ 3 0], reached) ∧
        reached.routeMotionInner 5 0 none = .ok (.cross ⟨"remote"⟩ 1 50, next) ∧
        reached.JustifiedCrossing 5 0 ⟨"remote"⟩ 1 50 next edge := by
  obtain ⟨router, built⟩ :
      ∃ router, new (sampleTopology true) ⟨"local"⟩ 0 0 = .ok router := ⟨_, rfl⟩
  obtain ⟨reached, next, ran, routed⟩ :
      ∃ reached next, Machine.run command router [.setPosition ⟨"local"⟩ 200 50, .routeMotion 3 0] =
        .ok ([.stay ⟨"local"⟩ 3 0], reached) ∧
      reached.routeMotionInner 5 0 none = .ok (.cross ⟨"remote"⟩ 1 50, next) := by
    obtain rfl := Outcome.ok.inj built
    exact ⟨_, _, rfl, rfl⟩
  obtain ⟨edge, justified⟩ := crossing_justified built ran routed
  exact ⟨router, reached, next, edge, built, ran, routed, justified⟩

end TopologyRouter
end Rflow
