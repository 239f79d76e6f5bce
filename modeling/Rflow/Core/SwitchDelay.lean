import Rflow.Core.CursorBounds

/-!
# The delay of a crossing

A crossing with a clock comes at least the switch delay after the cursor was brought to the border
or held there.  In between it has only been pushed further against that border.
-/

namespace Rflow

open Foundation

/-- A call with a clock, or one that does not move the cursor. -/
def RouterCommand.Clocked : RouterCommand → Prop
  | .routeMotion .. => False
  | .setPosition .. | .replaceTopology _ | .routeMotionAt .. => True

/-- Both extents are `i32` values. -/
def ScreenSize.Fits (size : ScreenSize) : Prop := size.width ≤ i32Max ∧ size.height ≤ i32Max

/-- The extents of all screens are `i32` values. -/
def ScreenTopology.Fits (topology : ScreenTopology) : Prop :=
  ∀ node ∈ topology.screens, node.effectiveSize.Fits

namespace TopologyRouter

variable {router next : TopologyRouter} {size : ScreenSize} {edge : Edge}
  {x y dx dy nextX nextY : Int} {timestampMicros : Nat} {route : TopologyRoute}

/-- The cursor is on a border of the active screen. -/
def AtBorder (router : TopologyRouter) (edge : Edge) : Prop :=
  ∃ node, router.topology.find router.active = some node ∧
    OnBorder node.effectiveSize router.x router.y edge

/-- A motion pushes the cursor over a linked border of the active screen. -/
def PushesOver (router : TopologyRouter) (dx dy : Int) (edge : Edge) : Prop :=
  ∃ node target, router.topology.find router.active = some node ∧
    crossedEdge node.effectiveSize router.x router.y dx dy = .ok (some edge) ∧
    router.linkedEdge edge = some target

/-! ## Reaching a border -/

theorem reachedEdge_eq_some (reached : reachedEdge size nextX nextY dx dy = .ok (some edge)) :
    Outward dx dy edge ∧
      match edge with
      | .left => nextX ≤ 0
      | .right => size.width - 1 ≤ nextX
      | .top => nextY ≤ 0
      | .bottom => size.height - 1 ≤ nextY := by
  unfold reachedEdge at reached
  by_cases left : nextX ≤ 0 ∧ dx < 0
  · rw [if_pos left] at reached
    obtain rfl := Option.some.inj (Outcome.ok.inj reached)
    exact ⟨left.2, left.1⟩
  rw [if_neg left, Outcome.bind_eq_ok] at reached
  obtain ⟨_, last, reached⟩ := reached
  obtain ⟨_, rfl⟩ := checkedPred_eq_ok.mp last
  by_cases right : size.width - 1 ≤ nextX ∧ 0 < dx
  · rw [if_pos right] at reached
    obtain rfl := Option.some.inj (Outcome.ok.inj reached)
    exact ⟨right.2, right.1⟩
  rw [if_neg right] at reached
  by_cases top : nextY ≤ 0 ∧ dy < 0
  · rw [if_pos top] at reached
    obtain rfl := Option.some.inj (Outcome.ok.inj reached)
    exact ⟨top.2, top.1⟩
  rw [if_neg top, Outcome.bind_eq_ok] at reached
  obtain ⟨_, last, reached⟩ := reached
  obtain ⟨_, rfl⟩ := checkedPred_eq_ok.mp last
  by_cases bottom : size.height - 1 ≤ nextY ∧ 0 < dy
  · rw [if_pos bottom] at reached
    obtain rfl := Option.some.inj (Outcome.ok.inj reached)
    exact ⟨bottom.2, bottom.1⟩
  · rw [if_neg bottom] at reached
    cases Outcome.ok.inj reached

theorem clampInto_eq_ok {point : Int × Int} (clamped : clampInto size x y = .ok point) :
    size.Positive ∧ point = (max 0 (min (size.width - 1) x), max 0 (min (size.height - 1) y)) := by
  refine ⟨clampInto_isOk.mp ⟨point, clamped⟩, ?_⟩
  simp only [clampInto, Outcome.bind_eq_ok, checkedPred_eq_ok, clamp_eq_ok, Outcome.pure_eq,
    Outcome.ok.injEq] at clamped
  obtain ⟨_, ⟨_, rfl⟩, _, ⟨_, rfl⟩, _, ⟨_, rfl⟩, _, ⟨_, rfl⟩, rfl⟩ := clamped
  rfl

/-- A motion that reaches a border ends on it. -/
theorem onBorder_of_reached {point : Int × Int}
    (reached : reachedEdge size nextX nextY dx dy = .ok (some edge))
    (clamped : clampInto size nextX nextY = .ok point) : OnBorder size point.1 point.2 edge := by
  obtain ⟨⟨width, height⟩, rfl⟩ := clampInto_eq_ok clamped
  obtain ⟨_, beyond⟩ := reachedEdge_eq_some reached
  cases edge <;> simp only [OnBorder] at beyond ⊢ <;> omega

/-- A cursor on a border that is pushed out of it stays on it. -/
theorem onBorder_of_outward {point : Int × Int} (fits : size.Fits) (border : OnBorder size x y edge)
    (outward : Outward dx dy edge)
    (clamped : clampInto size (saturatingAdd x dx) (saturatingAdd y dy) = .ok point) :
    OnBorder size point.1 point.2 edge := by
  obtain ⟨⟨width, height⟩, rfl⟩ := clampInto_eq_ok clamped
  obtain ⟨fitsX, fitsY⟩ := fits
  unfold i32Max at fitsX fitsY
  cases edge <;> simp only [OnBorder, Outward, saturatingAdd, saturate, i32Max,
    i32Min] at * <;> omega

theorem onBorder_of_crossed {point : Int × Int} (fits : size.Fits)
    (crossed : crossedEdge size x y dx dy = .ok (some edge))
    (clamped : clampInto size (saturatingAdd x dx) (saturatingAdd y dy) = .ok point) :
    OnBorder size point.1 point.2 edge := by
  obtain ⟨border, outward⟩ := crossedEdge_eq_some crossed
  exact onBorder_of_outward fits border outward clamped

/-! ## The clock of the barrier -/

variable {barrier later : EdgeBarrier Edge}

/-- A barrier gives way to a clock that it started at least the delay before. -/
theorem waitElapsed_gives (given : barrier.waitElapsed edge timestampMicros = (true, later)) :
    later = .reset ∧ barrier.edge = some edge ∧
      ∃ since, barrier.sinceMicros = some since ∧
          since + edgeSwitchDelayMicros ≤ timestampMicros := by
  unfold EdgeBarrier.waitElapsed at given
  by_cases pressed : barrier.edge = some edge
  · rw [if_neg (not_not.mpr pressed)] at given
    by_cases elapsed :
        edgeSwitchDelayMicros ≤ timestampMicros - barrier.sinceMicros.getD timestampMicros
    · rw [if_pos elapsed] at given
      obtain ⟨_, rfl⟩ := Prod.mk.inj given
      refine ⟨rfl, pressed, ?_⟩
      unfold edgeSwitchDelayMicros at elapsed ⊢
      cases clock : barrier.sinceMicros with
      | none => simp [clock] at elapsed
      | some since =>
          rw [clock, Option.getD_some] at elapsed
          exact ⟨since, rfl, by omega⟩
    · rw [if_neg elapsed] at given
      cases (Prod.mk.inj given).1
  · rw [if_pos pressed] at given
    cases (Prod.mk.inj given).1

/-- A barrier that holds has the edge, and the clock of an earlier press or a new one. -/
theorem waitElapsed_holds (held : barrier.waitElapsed edge timestampMicros = (false, later)) :
    later.edge = some edge ∧
      (later.sinceMicros = some timestampMicros ∨
        barrier.edge = some edge ∧ later.sinceMicros = barrier.sinceMicros) := by
  unfold EdgeBarrier.waitElapsed at held
  by_cases pressed : barrier.edge = some edge
  · simp only [pressed, ne_eq, not_true_eq_false, if_false] at held
    split_ifs at held with elapsed
    · cases (Prod.mk.inj held).1
    · obtain ⟨_, rfl⟩ := Prod.mk.inj held
      refine ⟨rfl, ?_⟩
      cases clock : barrier.sinceMicros with
      | none => exact Or.inl rfl
      | some since => exact Or.inr ⟨pressed, rfl⟩
  · rw [if_pos pressed] at held
    obtain ⟨_, rfl⟩ := Prod.mk.inj held
    exact ⟨rfl, Or.inl rfl⟩

theorem startWait_edge (barrier : EdgeBarrier Edge) (edge : Edge) (timestampMicros : Nat) :
    (barrier.startWait edge timestampMicros).edge = some edge ∧
      ((barrier.startWait edge timestampMicros).sinceMicros = some timestampMicros ∨
        barrier.edge = some edge ∧
          (barrier.startWait edge timestampMicros).sinceMicros = barrier.sinceMicros) := by
  unfold EdgeBarrier.startWait
  split_ifs with fresh
  · exact ⟨rfl, Or.inl rfl⟩
  · rw [not_or, not_not] at fresh
    exact ⟨fresh.1, Or.inr ⟨fresh.1, rfl⟩⟩

/-! ## One motion with a clock -/

/-- A motion with a clock keeps the cursor on its screen.  The barrier is at rest afterwards, or the
cursor has been pushed against the border that it names, whose clock has been running before or
starts now. -/
structure Waits (router : TopologyRouter) (dx dy : Int) (timestampMicros : Nat)
    (next : TopologyRouter) : Prop where
  topology : next.topology = router.topology
  active : next.active = router.active
  barrier : ∀ edge, next.barrier.edge = some edge →
    Outward dx dy edge ∧ next.AtBorder edge ∧
      (next.barrier.sinceMicros = some timestampMicros ∨
        router.barrier.edge = some edge ∧ next.barrier.sinceMicros = router.barrier.sinceMicros)

/-- A motion with a clock crosses a border that the barrier has timed for the delay. -/
structure CrossesOver (router : TopologyRouter) (dx dy : Int) (timestampMicros : Nat)
    (next : TopologyRouter) (edge : Edge) : Prop where
  topology : next.topology = router.topology
  reset : next.barrier.edge = none
  pushes : router.PushesOver dx dy edge
  pressed : router.barrier.edge = some edge
  elapsed : ∃ since, router.barrier.sinceMicros = some since ∧
    since + edgeSwitchDelayMicros ≤ timestampMicros

/-- Motions with a clock wait at a border or cross it. -/
theorem routeMotionAt_cases (fits : router.topology.Fits)
    (routed : router.routeMotionAt dx dy timestampMicros = .ok (route, next)) :
    (route = .stay router.active dx dy ∧ router.Waits dx dy timestampMicros next) ∨
      ∃ target x y edge, route = .cross target x y ∧
        router.CrossesOver dx dy timestampMicros next edge := by
  simp only [routeMotionAt, routeMotionInner, Outcome.bind_eq_ok, screenSize_eq_ok] at routed
  obtain ⟨_, ⟨node, found, rfl⟩, crossed, crosses, routed⟩ := routed
  have nodeFits := fits node (ScreenTopology.find_mem found)
  split at routed
  · rename_i edge target selected
    obtain ⟨_, rfl, mapped⟩ := Option.bind_eq_some_iff.mp selected
    obtain ⟨_, linked, same⟩ := Option.map_eq_some_iff.mp mapped
    cases same
    simp only [pressEdge, pressBarrier] at routed
    rcases pressed : router.barrier.waitElapsed edge timestampMicros with ⟨given, barrier⟩
    cases given <;> simp only [pressed, if_true, Bool.false_eq_true, if_false] at routed
    · simp only [settle, Outcome.bind_eq_ok, Outcome.pure_eq, Outcome.ok.injEq,
        Prod.mk.injEq] at routed
      obtain ⟨point, clamped, rfl, rfl⟩ := routed
      obtain ⟨named, clock⟩ := waitElapsed_holds pressed
      refine Or.inl ⟨rfl, rfl, rfl, fun other mine => ?_⟩
      obtain rfl := Option.some.inj (named.symm.trans mine)
      exact ⟨(crossedEdge_eq_some crosses).2,
        ⟨node, found, onBorder_of_crossed nodeFits crosses clamped⟩, clock⟩
    · simp only [Outcome.bind_eq_ok, Outcome.pure_eq, Outcome.ok.injEq, Prod.mk.injEq] at routed
      obtain ⟨_, _, ⟨x, y⟩, _, rfl, rfl⟩ := routed
      obtain ⟨rfl, named, since, started, elapsed⟩ := waitElapsed_gives pressed
      exact Or.inr ⟨_, x, y, edge, rfl, rfl, rfl, ⟨node, target, found, crosses, linked⟩, named,
        since, started, elapsed⟩
  · simp only [moveInside, Outcome.bind_eq_ok] at routed
    obtain ⟨reached, reaches, routed⟩ := routed
    simp only [settle, Outcome.bind_eq_ok, Outcome.pure_eq, Outcome.ok.injEq,
      Prod.mk.injEq] at routed
    obtain ⟨point, clamped, rfl, rfl⟩ := routed
    refine Or.inl ⟨rfl, rfl, rfl, fun edge named => ?_⟩
    cases reached with
    | none => cases named
    | some other =>
        simp only at named ⊢
        split_ifs at named ⊢
        · obtain ⟨started, clock⟩ := startWait_edge router.barrier other timestampMicros
          obtain rfl := Option.some.inj (started.symm.trans named)
          exact ⟨(reachedEdge_eq_some reaches).1,
            ⟨node, found, onBorder_of_reached reaches clamped⟩, clock⟩
        · cases named

/-! ## Whole runs -/

/-- A call that the router turns down. -/
def Refuses (router : TopologyRouter) : RouterCommand → Prop
  | .setPosition active x y => ∃ error, router.setPosition active x y = .err error
  | .replaceTopology topology => ∃ error, router.replaceTopology topology = .err error
  | .routeMotion .. | .routeMotionAt .. => False

/-- What a call does: it is refused, it moves the cursor by the clock, or it puts the barrier to
rest. -/
theorem command_clocked {called : RouterCommand} {routes : List TopologyRoute}
    (clocked : called.Clocked) (within : called.Within ScreenTopology.Fits)
    (commanded : router.command called = .ok (routes, next)) :
    (router.Refuses called ∧ routes = [] ∧ next = router) ∨
      (next.barrier.edge = none ∧ (next.topology = router.topology ∨ next.topology.Fits)) ∨
      ∃ dx dy timestampMicros route, called = .routeMotionAt dx dy timestampMicros ∧
        routes = [route] ∧ router.routeMotionAt dx dy timestampMicros = .ok (route, next) := by
  cases called with
  | setPosition active x y =>
      obtain ⟨rfl, placed | ⟨refused, rfl⟩⟩ := orUnchanged_eq_ok.mp commanded
      · simp only [setPosition, Outcome.bind_eq_ok, Outcome.pure_eq, Outcome.ok.injEq] at placed
        obtain ⟨_, _, _, _, rfl⟩ := placed
        exact Or.inr (Or.inl ⟨rfl, Or.inl rfl⟩)
      · exact Or.inl ⟨refused, rfl, rfl⟩
  | replaceTopology topology =>
      obtain ⟨rfl, replaced | ⟨refused, rfl⟩⟩ := orUnchanged_eq_ok.mp commanded
      · simp only [replaceTopology, Outcome.bind_eq_ok, Outcome.pure_eq,
          Outcome.ok.injEq] at replaced
        obtain ⟨⟨⟩, valid, _, _, _, _, rfl⟩ := replaced
        exact Or.inr (Or.inl ⟨rfl, Or.inr (within valid)⟩)
      · exact Or.inl ⟨refused, rfl, rfl⟩
  | routeMotion dx dy => exact clocked.elim
  | routeMotionAt dx dy timestampMicros =>
      simp only [command, Outcome.bind_eq_ok, Outcome.pure_eq, Outcome.ok.injEq,
        Prod.mk.injEq] at commanded
      obtain ⟨⟨route, _⟩, routed, rfl, rfl⟩ := commanded
      exact Or.inr (Or.inr ⟨dx, dy, timestampMicros, route, rfl, rfl, routed⟩)

/-- A call pushes the cursor further against a border of a screen, or is refused. -/
structure PushesOn (screen : ScreenId) (edge : Edge) (router : TopologyRouter)
    (called : RouterCommand) : Prop where
  active : router.active = screen
  border : router.AtBorder edge
  stays : router.Refuses called ∨
    ∃ dx dy timestampMicros next, called = .routeMotionAt dx dy timestampMicros ∧
      Outward dx dy edge ∧ router.command called = .ok ([.stay screen dx dy], next)

/-- After some calls a motion brought the cursor to a border of its screen or held it there, and the
calls since then have only pushed it further against that border. -/
def PressedSince (router : TopologyRouter) (before : List RouterCommand) (dx dy : Int)
    (timestampMicros : Nat) (between : List RouterCommand) (reached : TopologyRouter)
    (edge : Edge) : Prop :=
  ∃ earlier pressed routes more,
    Machine.run command router before = .ok (routes, earlier) ∧
    earlier.command (.routeMotionAt dx dy timestampMicros) =
      .ok ([.stay reached.active dx dy], pressed) ∧
    Outward dx dy edge ∧ pressed.AtBorder edge ∧
    Machine.run command pressed between = .ok (more, reached) ∧
    Machine.Along command (PushesOn reached.active edge) pressed between

/-- What the barrier says about the calls so far: a border that it names has been pressed since the
time that it holds. -/
structure Timed (router : TopologyRouter) (past : List RouterCommand) (reached : TopologyRouter) :
    Prop where
  fits : reached.topology.Fits
  pressed : ∀ edge, reached.barrier.edge = some edge →
    reached.AtBorder edge ∧
      ∃ before dx dy since between, reached.barrier.sinceMicros = some since ∧
        past = before ++ .routeMotionAt dx dy since :: between ∧
        router.PressedSince before dx dy since between reached edge

theorem Timed.of_rest {past : List RouterCommand} {reached : TopologyRouter}
    (fits : reached.topology.Fits) (rest : reached.barrier.edge = none) :
    router.Timed past reached :=
  ⟨fits, fun edge named => by simp [rest] at named⟩

/-- A call on which the cursor stays at a border prolongs the press of that border. -/
theorem PressedSince.snoc {before between : List RouterCommand} {reached : TopologyRouter}
    {called : RouterCommand} {routes : List TopologyRoute}
    (pressed : router.PressedSince before dx dy timestampMicros between reached edge)
    (pushes : PushesOn reached.active edge reached called)
    (commanded : reached.command called = .ok (routes, next))
    (same : next.active = reached.active) :
    router.PressedSince before dx dy timestampMicros (between ++ [called]) next edge := by
  obtain ⟨earlier, started, first, more, ran, stayed, outward, border, held, along⟩ := pressed
  refine ⟨earlier, started, first, more ++ routes, ran, same ▸ stayed, outward, border, ?_, ?_⟩
  · exact Machine.run_append_eq_ok.mpr
      ⟨more, reached, routes, held, Machine.run_singleton_eq_ok.mpr commanded, rfl⟩
  · rw [same]
    exact (Machine.along_append held).mpr ⟨along, pushes, fun _ _ _ => trivial⟩

theorem command_timed {past : List RouterCommand} {reached : TopologyRouter}
    {called : RouterCommand} {first routes : List TopologyRoute}
    (ran : Machine.run command router past = .ok (first, reached))
    (timed : router.Timed past reached)
    (clocked : called.Clocked) (within : called.Within ScreenTopology.Fits)
    (commanded : reached.command called = .ok (routes, next)) :
    router.Timed (past ++ [called]) next := by
  rcases command_clocked clocked within commanded with ⟨refused, rfl, rfl⟩ | ⟨rest, topology⟩ |
    ⟨dx, dy, timestampMicros, route, rfl, rfl, routed⟩
  · refine ⟨timed.fits, fun edge named => ?_⟩
    obtain ⟨border, before, dx, dy, since, between, clock, rfl, pressed⟩ := timed.pressed edge named
    refine ⟨border, before, dx, dy, since, between ++ [called], clock, by simp, ?_⟩
    exact pressed.snoc ⟨rfl, border, Or.inl refused⟩ commanded rfl
  · refine Timed.of_rest ?_ rest
    rcases topology with same | fits
    · exact same ▸ timed.fits
    · exact fits
  · rcases routeMotionAt_cases timed.fits routed with ⟨rfl, waits⟩ | ⟨_, _, _, edge, rfl, crosses⟩
    · refine ⟨waits.topology ▸ timed.fits, fun edge named => ?_⟩
      obtain ⟨outward, border, fresh | ⟨running, clock⟩⟩ := waits.barrier edge named
      · refine ⟨border, past, dx, dy, timestampMicros, [], fresh, rfl, ?_⟩
        exact ⟨reached, next, first, [], ran, waits.active ▸ commanded, outward,
          border, rfl, trivial⟩
      · obtain ⟨earlier, before, dx', dy', since, between, started, rfl, pressed⟩ :=
          timed.pressed edge running
        refine ⟨border, before, dx', dy', since, between ++ [.routeMotionAt dx dy timestampMicros],
          clock.trans started, by simp, ?_⟩
        exact pressed.snoc ⟨rfl, earlier, Or.inr ⟨dx, dy, timestampMicros, next, rfl, outward,
          commanded⟩⟩ commanded waits.active
    · exact Timed.of_rest (crosses.topology ▸ timed.fits) crosses.reset

/-- Whatever calls a router has had, a motion with a clock crosses a border only when an earlier
one, at least the switch delay before, brought the cursor to that border or held it there, and the
calls in between only pushed it further against that border. -/
theorem crossing_delayed {topology : ScreenTopology} {active : ScreenId} {x y : Int}
    {reached : TopologyRouter} {commands : List RouterCommand} {routes : List TopologyRoute}
    {target : ScreenId} {targetX targetY : Int} (fits : topology.Fits)
    (built : new topology active x y = .ok router)
    (clocked : ∀ called ∈ commands, called.Clocked ∧ called.Within ScreenTopology.Fits)
    (ran : Machine.run command router commands = .ok (routes, reached))
    (routed : reached.routeMotionAt dx dy timestampMicros =
      .ok (.cross target targetX targetY, next)) :
    ∃ edge before earlierX earlierY since between,
      reached.PushesOver dx dy edge ∧
      commands = before ++ .routeMotionAt earlierX earlierY since :: between ∧
      since + edgeSwitchDelayMicros ≤ timestampMicros ∧
      router.PressedSince before earlierX earlierY since between reached edge := by
  have start : router.Timed [] router := by
    simp only [new, Outcome.bind_eq_ok, Outcome.pure_eq, Outcome.ok.injEq] at built
    obtain ⟨_, _, _, _, _, _, rfl⟩ := built
    exact Timed.of_rest fits rfl
  have timed : router.Timed commands reached :=
    Machine.run_history
      (fun ran timed admissible commanded =>
        command_timed ran timed admissible.1 admissible.2 commanded) start clocked ran
  rcases routeMotionAt_cases timed.fits routed with ⟨stayed, _⟩ | ⟨_, _, _, edge, _, crosses⟩
  · cases stayed
  · obtain ⟨_, before, earlierX, earlierY, since, between, clock, split, pressed⟩ :=
      timed.pressed edge crosses.pressed
    obtain ⟨started, same, elapsed⟩ := crosses.elapsed
    obtain rfl := Option.some.inj (same.symm.trans clock)
    exact ⟨edge, before, earlierX, earlierY, started, between, crosses.pushes, split,
      elapsed, pressed⟩

theorem crossing_delayed_rightwards :
    ∃ router reached next edge before dx dy since between,
      new (sampleTopology true) ⟨"local"⟩ 0 0 = .ok router ∧
        Machine.run command router [.routeMotionAt 200 0 1000, .setPosition ⟨"nowhere"⟩ 0 0,
          .routeMotionAt 1 3 100000] =
          .ok ([.stay ⟨"local"⟩ 200 0, .stay ⟨"local"⟩ 1 3], reached) ∧
        reached.routeMotionAt 1 0 251000 = .ok (.cross ⟨"remote"⟩ 1 3, next) ∧
        reached.PushesOver 1 0 edge ∧
        [.routeMotionAt 200 0 1000, .setPosition ⟨"nowhere"⟩ 0 0, .routeMotionAt 1 3 100000] =
          before ++ RouterCommand.routeMotionAt dx dy since :: between ∧
        since + edgeSwitchDelayMicros ≤ 251000 ∧
        router.PressedSince before dx dy since between reached edge := by
  obtain ⟨router, built⟩ :
      ∃ router, new (sampleTopology true) ⟨"local"⟩ 0 0 = .ok router := ⟨_, rfl⟩
  obtain ⟨reached, next, ran, routed⟩ :
      ∃ reached next, Machine.run command router [.routeMotionAt 200 0 1000,
          .setPosition ⟨"nowhere"⟩ 0 0, .routeMotionAt 1 3 100000] =
        .ok ([.stay ⟨"local"⟩ 200 0, .stay ⟨"local"⟩ 1 3], reached) ∧
      reached.routeMotionAt 1 0 251000 = .ok (.cross ⟨"remote"⟩ 1 3, next) := by
    obtain rfl := Outcome.ok.inj built
    exact ⟨_, _, rfl, rfl⟩
  have fits : (sampleTopology true).Fits := by
    simp [ScreenTopology.Fits, ScreenSize.Fits, sampleTopology, sampleNode,
      ScreenNode.effectiveSize, i32Max]
  obtain ⟨edge, before, dx, dy, since, between, pushes, split, elapsed, pressed⟩ :=
    crossing_delayed fits built (by simp [RouterCommand.Clocked, RouterCommand.Within]) ran routed
  exact ⟨router, reached, next, edge, before, dx, dy, since, between, built, ran, routed, pushes,
    split, elapsed, pressed⟩

end TopologyRouter
end Rflow
