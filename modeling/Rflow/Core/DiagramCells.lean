import Rflow.Core.Diagram

/-!
# The cells of a diagram

The placement of the screens computes the breadth-first placement of the graph of the links, in
numbers without bound, as long as the numbers are in their range.
-/

namespace Rflow

open Foundation BreadthFirst

/-- Both coordinates are in their range. -/
def InCell (cell : Cell) : Prop := InI32 cell.1 ∧ InI32 cell.2

/-- The screens that the links lead to from a screen, with the steps to them. -/
def neighbours (links : List ScreenLink) (id : ScreenId) : List (ScreenId × Cell) :=
  links.filterMap fun link => (link.leave id).map fun (target, edge) => (target, edge.delta)

/-- Every screen that is met is met in range. -/
def InRange (links : List ScreenLink) (search : Search ScreenId Cell) : Prop :=
  ∀ entry ∈ search.placed, ∀ edge ∈ neighbours links entry.1, InCell (entry.2 + edge.2)

/-! ## The loop over the links -/

theorem neighbours_cons_none {link : ScreenLink} {links : List ScreenLink} {id : ScreenId}
    (left : link.leave id = none) : neighbours (link :: links) id = neighbours links id := by
  simp [neighbours, left]

theorem neighbours_cons_some {link : ScreenLink} {links : List ScreenLink} {id target : ScreenId}
    {edge : Edge} (left : link.leave id = some (target, edge)) :
    neighbours (link :: links) id = (target, edge.delta) :: neighbours links id := by
  simp [neighbours, left]

/-- A link that leaves a screen proposes the cell across its edge. -/
theorem placeLinks_cons {id target : ScreenId} {edge : Edge} {origin : Cell} {link : ScreenLink}
    {links : List ScreenLink} {search : Search ScreenId Cell}
    (left : link.leave id = some (target, edge)) :
    placeLinks id origin (link :: links) search = (do
      let x ← checkedAdd origin.1 edge.delta.1
      let y ← checkedAdd origin.2 edge.delta.2
      placeLinks id origin links (search.propose target (x, y))) := by
  simp only [placeLinks, left, Search.propose]
  refine bind_congr fun x => bind_congr fun y => ?_
  cases placeOf search.placed target with
  | none => rfl
  | some existing => by_cases same : existing = (x, y) <;> simp [same]

/-- The links of a screen are followed when every screen is met in range. -/
theorem placeLinks_eq_ok {id : ScreenId} {origin : Cell} {links : List ScreenLink}
    {search later : Search ScreenId Cell} :
    placeLinks id origin links search = .ok later ↔
      (∀ edge ∈ neighbours links id, InCell (origin + edge.2)) ∧
        later = search.expand origin (neighbours links id) := by
  induction links generalizing search with
  | nil => simp [placeLinks, neighbours, Search.expand, eq_comm]
  | cons link links induction =>
      cases left : link.leave id with
      | none => simp only [placeLinks, left, induction, neighbours_cons_none left]
      | some parts =>
          obtain ⟨target, edge⟩ := parts
          simp only [placeLinks_cons left, neighbours_cons_some left, Outcome.bind_eq_ok,
            checkedAdd_eq_ok, induction, List.forall_mem_cons, Search.expand]
          constructor
          · rintro ⟨_, ⟨inX, rfl⟩, _, ⟨inY, rfl⟩, rest, rfl⟩
            exact ⟨⟨⟨inX, inY⟩, rest⟩, rfl⟩
          · rintro ⟨⟨⟨inX, inY⟩, rest⟩, rfl⟩
            exact ⟨_, ⟨inX, rfl⟩, _, ⟨inY, rfl⟩, rest, rfl⟩

/-! ## The loop over the queue -/

theorem placeQueued_nil {search : Search ScreenId Cell} (empty : search.queue = [])
    (links : List ScreenLink) (fuel : Nat) : placeQueued links fuel search = .ok search := by
  rw [placeQueued]
  simp only [empty]

theorem placeQueued_cons {links : List ScreenLink} {fuel : Nat} {search : Search ScreenId Cell}
    {id : ScreenId} {queue : List ScreenId} {origin : Cell} (waiting : search.queue = id :: queue)
    (placed : placeOf search.placed id = some origin) :
    placeQueued links (fuel + 1) search = (do
      let search ← placeLinks id origin links { search with queue }
      placeQueued links fuel search) := by
  conv_lhs => unfold placeQueued
  simp only [waiting, placed]

/-- Where every screen is met in range, the loop computes the placement without bound. -/
theorem placeQueued_of_inRange {links : List ScreenLink} {fuel : Nat}
    {search : Search ScreenId Cell} (inRange : InRange links (search.run (neighbours links) fuel))
    (finished : (search.run (neighbours links) fuel).queue = []) :
    placeQueued links fuel search = .ok (search.run (neighbours links) fuel) := by
  induction fuel generalizing search with
  | zero => exact placeQueued_nil finished links 0
  | succ fuel induction =>
      cases waiting : search.queue with
      | nil => rw [placeQueued_nil waiting, Search.run_nil waiting]
      | cons id queue =>
          cases placed : placeOf search.placed id with
          | none =>
              unfold Search.run at finished
              simp only [waiting, placed] at finished
              cases finished
          | some origin =>
              rw [Search.run_cons waiting placed] at inRange finished ⊢
              have grows := (search.follow_grows queue origin (neighbours links id)).trans
                (Search.run_grows (neighbours links) fuel _)
              have met := inRange _ (grows.placed _ (mem_of_placeOf placed))
              have followed : placeLinks id origin links { search with queue } = .ok _ :=
                placeLinks_eq_ok.mpr ⟨met, rfl⟩
              rw [placeQueued_cons waiting placed, followed, Outcome.ok_bind]
              exact induction inRange finished

/-- With nothing in the queue, every screen was met in range when those that are done were. -/
theorem InRange.of_explored {links : List ScreenLink} {first : ScreenId} {done : List ScreenId}
    {search : Search ScreenId Cell} (explored : search.Explored (neighbours links) first done)
    (met : ∀ entry ∈ search.placed, entry.1 ∈ done →
      ∀ edge ∈ neighbours links entry.1, InCell (entry.2 + edge.2))
    (empty : search.queue = []) : InRange links search := by
  intro entry member
  have key := List.mem_map_of_mem member (f := Prod.fst)
  rw [explored.keys, empty, List.append_nil] at key
  exact met entry member key

/-- When the loop returns, it has computed the placement without bound, and every screen was met in
range. -/
theorem placeQueued_eq_ok {links : List ScreenLink} {first : ScreenId} {done : List ScreenId}
    {fuel : Nat} {search later : Search ScreenId Cell}
    (explored : search.Explored (neighbours links) first done)
    (met : ∀ entry ∈ search.placed, entry.1 ∈ done →
      ∀ edge ∈ neighbours links entry.1, InCell (entry.2 + edge.2))
    (placed : placeQueued links fuel search = .ok later) :
    later = search.run (neighbours links) fuel ∧ InRange links later := by
  induction fuel generalizing search done with
  | zero =>
      cases waiting : search.queue with
      | nil =>
          rw [placeQueued_nil waiting] at placed
          obtain rfl := Outcome.ok.inj placed
          exact ⟨rfl, .of_explored explored met waiting⟩
      | cons id queue =>
          unfold placeQueued at placed
          simp only [waiting, reduceCtorEq] at placed
  | succ fuel induction =>
      cases waiting : search.queue with
      | nil =>
          rw [placeQueued_nil waiting] at placed
          obtain rfl := Outcome.ok.inj placed
          exact ⟨(Search.run_nil waiting _).symm, .of_explored explored met waiting⟩
      | cons id queue =>
          cases found : placeOf search.placed id with
          | none =>
              unfold placeQueued at placed
              simp only [waiting, found, reduceCtorEq] at placed
          | some origin =>
              rw [placeQueued_cons waiting found] at placed
              obtain ⟨next, followed, placed⟩ := Outcome.bind_eq_ok.mp placed
              obtain ⟨here, rfl⟩ := placeLinks_eq_ok.mp followed
              have follows := explored.follow waiting found
              have grows := search.follow_grows queue origin (neighbours links id)
              rw [Search.run_cons waiting found]
              refine induction follows ?_ placed
              intro entry member isDone
              rcases List.mem_append.mp isDone with before | now
              · have known : entry.1 ∈ search.placed.map Prod.fst :=
                  explored.keys ▸ List.mem_append_left _ before
                exact met entry (follows.mem_of_grows grows known member) before
              · have same : entry = (id, origin) := follows.distinct.eq_of_key member
                  (grows.placed _ (mem_of_placeOf found)) (List.mem_singleton.mp now)
                rw [same]
                exact here

/-! ## The graph of the links -/

theorem ScreenLink.leave_eq_some {link : ScreenLink} {id target : ScreenId} {edge : Edge}
    (left : link.leave id = some (target, edge)) :
    (link.fromEdge = ⟨id, edge⟩ ∧ target = link.toEdge.screenId) ∨
      (link.toEdge = ⟨id, edge⟩ ∧ target = link.fromEdge.screenId) := by
  unfold leave at left
  split_ifs at left with out back
  · obtain ⟨rfl, rfl⟩ := Prod.mk.inj (Option.some.inj left)
    exact .inl ⟨by rw [← out], rfl⟩
  · obtain ⟨rfl, rfl⟩ := Prod.mk.inj (Option.some.inj left)
    exact .inr ⟨by rw [← back], rfl⟩

theorem mem_neighbours {links : List ScreenLink} {id target : ScreenId} {step : Cell} :
    (target, step) ∈ neighbours links id ↔
      ∃ link ∈ links, ∃ edge, link.leave id = some (target, edge) ∧ edge.delta = step := by
  simp only [neighbours, List.mem_filterMap, Option.map_eq_some_iff, Prod.exists, Prod.mk.injEq]
  constructor
  · rintro ⟨link, member, _, edge, left, rfl, same⟩
    exact ⟨link, member, edge, left, same⟩
  · rintro ⟨link, member, edge, left, same⟩
    exact ⟨link, member, _, edge, left, rfl, same⟩

/-- The first screen and both ends of every link. -/
def placementNodes (links : List ScreenLink) (first : ScreenId) : List ScreenId :=
  first :: links.flatMap fun link => [link.fromEdge.screenId, link.toEdge.screenId]

theorem length_placementNodes (links : List ScreenLink) (first : ScreenId) :
    (placementNodes links first).length = 1 + 2 * links.length := by
  simp [placementNodes, List.length_flatMap]
  omega

theorem mem_placementNodes {links : List ScreenLink} {first id : ScreenId} {cell : Cell}
    (walk : Walk (neighbours links) first id cell) : id ∈ placementNodes links first := by
  cases walk with
  | nil => exact List.mem_cons_self
  | step walk edge =>
      obtain ⟨link, member, _, left, -⟩ := mem_neighbours.mp edge
      refine List.mem_cons_of_mem _ (List.mem_flatMap.mpr ⟨link, member, ?_⟩)
      rcases link.leave_eq_some left with ⟨-, rfl⟩ | ⟨-, rfl⟩ <;> simp

theorem checkedAdd_terminates {left right : Int} :
    (checkedAdd left right : Outcome Exhausted Int).Fails fun _ => False := by
  rw [checkedAdd]
  split <;> simp

theorem placeLinks_terminates (id : ScreenId) (origin : Cell) (links : List ScreenLink)
    (search : Search ScreenId Cell) :
    (placeLinks id origin links search).Fails fun _ => False := by
  induction links generalizing search with
  | nil => exact Outcome.fails_ok
  | cons link links induction =>
      cases left : link.leave id with
      | none =>
          simp only [placeLinks, left]
          exact induction search
      | some parts =>
          rw [placeLinks_cons left]
          exact checkedAdd_terminates.bind fun _ _ => checkedAdd_terminates.bind fun _ _ =>
            induction _

/-- With fuel for every screen that walks lead to, the loop does not run out of it. -/
theorem placeQueued_terminates {links : List ScreenLink} {first : ScreenId}
    {done : List ScreenId} {fuel : Nat} {search : Search ScreenId Cell}
    (explored : search.Explored (neighbours links) first done)
    (enough : (placementNodes links first).length ≤ done.length + fuel) :
    (placeQueued links fuel search).Fails fun _ => False := by
  induction fuel generalizing search done with
  | zero =>
      have shorter := explored.length_le fun _ _ => mem_placementNodes
      rw [placeQueued_nil (List.eq_nil_of_length_eq_zero (by omega))]
      exact Outcome.fails_ok
  | succ fuel induction =>
      cases waiting : search.queue with
      | nil =>
          rw [placeQueued_nil waiting]
          exact Outcome.fails_ok
      | cons id queue =>
          cases found : placeOf search.placed id with
          | none =>
              unfold placeQueued
              simp only [waiting, found]
              exact Outcome.fails_panic
          | some origin =>
              rw [placeQueued_cons waiting found]
              refine (placeLinks_terminates id origin links _).bind fun next followed => ?_
              obtain ⟨-, rfl⟩ := placeLinks_eq_ok.mp followed
              refine induction (explored.follow waiting found) ?_
              rw [List.length_append, List.length_singleton]
              omega

namespace ScreenTopology

/-- The breadth-first placement of the screens, in numbers without bound. -/
def breadthFirst (topology : ScreenTopology) (first : ScreenNode) : Search ScreenId Cell :=
  (Search.start first.screenId).run (neighbours topology.links) topology.placementFuel

theorem breadthFirst_finished (topology : ScreenTopology) (first : ScreenNode) :
    (topology.breadthFirst first).Finished (neighbours topology.links) first.screenId ∧
      (topology.breadthFirst first).queue = [] :=
  Search.finished_run (fun _ _ => mem_placementNodes) (length_placementNodes ..).le

theorem placeQueued_start_eq_ok {topology : ScreenTopology} {first : ScreenNode}
    {later : Search ScreenId Cell} :
    placeQueued topology.links topology.placementFuel (Search.start first.screenId) = .ok later ↔
      InRange topology.links (topology.breadthFirst first) ∧
        later = topology.breadthFirst first := by
  constructor
  · intro placed
    obtain ⟨rfl, inRange⟩ := placeQueued_eq_ok (Search.explored_start _) nofun placed
    exact ⟨inRange, rfl⟩
  · rintro ⟨inRange, rfl⟩
    exact placeQueued_of_inRange inRange (topology.breadthFirst_finished first).2

end ScreenTopology

/-! ## The row of the others -/

/-- Cells of a row from a column on. -/
def row (x : Int) : List ScreenNode → List (ScreenId × Cell)
  | [] => []
  | screen :: screens => (screen.screenId, (x, 0)) :: row (x + 1) screens

/-- The screens without a place. -/
def unplaced (screens : List ScreenNode) (positions : List (ScreenId × Cell)) : List ScreenNode :=
  screens.filter fun screen => screen.screenId ∉ positions.map Prod.fst

/-- A cell given to one screen leaves the others without a place. -/
theorem unplaced_append {screens : List ScreenNode} {positions : List (ScreenId × Cell)}
    {id : ScreenId} {cell : Cell} (other : id ∉ screens.map ScreenNode.screenId) :
    unplaced screens (positions ++ [(id, cell)]) = unplaced screens positions := by
  refine List.filter_congr fun screen member => ?_
  have different : screen.screenId ≠ id := fun same =>
    other (same ▸ List.mem_map_of_mem member)
  simp [different]

/-- The others are placed when the row ends in range. -/
theorem placeRest_eq_ok {screens : List ScreenNode} {positions final : List (ScreenId × Cell)}
    {nextX : Int} (distinct : (screens.map ScreenNode.screenId).Nodup) (inRange : InI32 nextX) :
    placeRest screens positions nextX = .ok final ↔
      nextX + (unplaced screens positions).length ≤ i32Max ∧
        final = positions ++ row nextX (unplaced screens positions) := by
  induction screens generalizing positions nextX with
  | nil =>
      have fits : nextX ≤ i32Max := inRange.2
      simp [placeRest, unplaced, row, fits, eq_comm]
  | cons screen screens induction =>
      obtain ⟨other, distinct⟩ := List.nodup_cons.mp distinct
      cases found : placeOf positions screen.screenId with
      | some cell =>
          have known : screen.screenId ∈ positions.map Prod.fst :=
            List.mem_map_of_mem (mem_of_placeOf found) (f := Prod.fst)
          have same : unplaced (screen :: screens) positions = unplaced screens positions :=
            List.filter_cons_of_neg (by simpa using known)
          simp only [placeRest, found, same, induction distinct inRange]
      | none =>
          have missing := placeOf_eq_none.mp found
          have more : unplaced (screen :: screens) positions =
              screen :: unplaced screens positions :=
            List.filter_cons_of_pos (by simpa using missing)
          have lower : i32Min ≤ nextX := inRange.1
          simp only [placeRest, found, more, row, List.length_cons, Nat.cast_add, Nat.cast_one,
            Outcome.bind_eq_ok, checkedAdd_eq_ok]
          constructor
          · rintro ⟨_, ⟨inRange, rfl⟩, placed⟩
            obtain ⟨fits, rfl⟩ := (induction distinct inRange).mp placed
            rw [unplaced_append other] at fits ⊢
            exact ⟨by omega, by simp⟩
          · rintro ⟨fits, rfl⟩
            have inRange : InI32 (nextX + 1) := ⟨by omega, by omega⟩
            refine ⟨_, ⟨inRange, rfl⟩, (induction distinct inRange).mpr ?_⟩
            rw [unplaced_append other]
            exact ⟨by omega, by simp⟩

theorem placeRest_terminates (screens : List ScreenNode) (positions : List (ScreenId × Cell))
    (nextX : Int) : (placeRest screens positions nextX).Fails fun _ => False := by
  induction screens generalizing positions nextX with
  | nil => exact Outcome.fails_ok
  | cons screen screens induction =>
      rw [placeRest]
      split
      · exact induction _ _
      · exact checkedAdd_terminates.bind fun _ _ => induction _ _

theorem keys_row (x : Int) (screens : List ScreenNode) :
    (row x screens).map Prod.fst = screens.map ScreenNode.screenId := by
  induction screens generalizing x with
  | nil => rfl
  | cons screen screens induction => simp [row, induction]

/-- A row has the columns from its start on, and one line. -/
theorem mem_row {x : Int} {screens : List ScreenNode} {entry : ScreenId × Cell}
    (member : entry ∈ row x screens) :
    x ≤ entry.2.1 ∧ entry.2.1 < x + screens.length ∧ entry.2.2 = 0 ∧
      ∃ screen ∈ screens, entry.1 = screen.screenId := by
  induction screens generalizing x with
  | nil => cases member
  | cons screen screens induction =>
      rcases List.mem_cons.mp member with rfl | later
      · exact ⟨le_rfl, by simp, rfl, screen, List.mem_cons_self, rfl⟩
      · obtain ⟨from_start, below, line, other, listed, same⟩ := induction later
        rw [List.length_cons]
        exact ⟨by omega, by omega, line, other, List.mem_cons_of_mem _ listed, same⟩

/-! ## The extent of the grid -/

theorem le_max?_getD {values : List Int} {value : Int} (member : value ∈ values) (default : Int) :
    value ≤ values.max?.getD default := by
  cases found : values.max? with
  | none =>
      rw [List.max?_eq_none_iff.mp found] at member
      cases member
  | some largest => exact (List.max?_eq_some_iff.mp found).2 value member

theorem max?_getD_mem {values : List Int} (nonempty : values ≠ []) (default : Int) :
    values.max?.getD default ∈ values := by
  cases found : values.max? with
  | none => exact absurd (List.max?_eq_none_iff.mp found) nonempty
  | some largest => exact List.max?_mem found

theorem min?_getD_le {values : List Int} {value : Int} (member : value ∈ values) (default : Int) :
    values.min?.getD default ≤ value := by
  cases found : values.min? with
  | none =>
      rw [List.min?_eq_none_iff.mp found] at member
      cases member
  | some least => exact (List.min?_eq_some_iff.mp found).2 value member

theorem min?_getD_mem {values : List Int} (nonempty : values ≠ []) (default : Int) :
    values.min?.getD default ∈ values := by
  cases found : values.min? with
  | none => exact absurd (List.min?_eq_none_iff.mp found) nonempty
  | some least => exact List.min?_mem found

/-- The numbers are less than the largest `i32` apart. -/
def Close (values : List Int) : Prop := ∀ value ∈ values, ∀ other ∈ values, value - other < i32Max

/-- How far the numbers are apart. -/
def extent (values : List Int) : Int := values.max?.getD 0 - values.min?.getD 0

/-- The extent and its successor are in range when the numbers are close. -/
theorem extent_fits_iff {values : List Int} (nonempty : values ≠ []) :
    (InI32 (extent values) ∧ InI32 (extent values + 1)) ↔ Close values := by
  rw [extent]
  have largest := max?_getD_mem nonempty 0
  have ordered := min?_getD_le largest 0
  constructor
  · rintro ⟨-, -, fits⟩ value member other member'
    have below := le_max?_getD member 0
    have above := min?_getD_le member' 0
    omega
  · intro close
    have apart := close _ largest _ (min?_getD_mem nonempty 0)
    have range : i32Min = -2147483648 ∧ i32Max = 2147483647 := ⟨rfl, rfl⟩
    exact ⟨⟨by omega, by omega⟩, by omega, by omega⟩

/-- A box has room at the place of its cell in the grid. -/
theorem box_fits {values : List Int} {value : Int} (member : value ∈ values)
    (inRange : InI32 (extent values + 1)) (size gap : Nat) :
    InI32 (value - values.min?.getD 0) ∧
      asUsize (value - values.min?.getD 0) * (size + gap) + size ≤
        asUsize (extent values + 1) * (size + gap) := by
  have above := min?_getD_le member 0
  have below := le_max?_getD member 0
  have upper : extent values + 1 ≤ i32Max := inRange.2
  have reach : value - values.min?.getD 0 ≤ extent values := by
    rw [extent]
    omega
  have range : i32Min = -2147483648 ∧ i32Max = 2147483647 := ⟨rfl, rfl⟩
  have inCell : InI32 (value - values.min?.getD 0) := ⟨by omega, by omega⟩
  refine ⟨inCell, ?_⟩
  rw [asUsize_eq (by omega) inCell, asUsize_eq (by omega) inRange]
  have next : (value - values.min?.getD 0).toNat + 1 ≤ (extent values + 1).toNat := by omega
  calc
    (value - values.min?.getD 0).toNat * (size + gap) + size
        ≤ ((value - values.min?.getD 0).toNat + 1) * (size + gap) := by rw [Nat.succ_mul]; omega
    _ ≤ (extent values + 1).toNat * (size + gap) := Nat.mul_le_mul_right _ next

/-! ## Rendering -/

/-- The canvas has room for all cells. -/
def Holds (positions : List (ScreenId × Cell)) : Canvas → Prop :=
  Sized (asUsize (extent (ys positions) + 1) * (boxHeight + 2))
    (asUsize (extent (xs positions) + 1) * (boxWidth + 3))

section

variable {positions : List (ScreenId × Cell)} (columns : InI32 (extent (xs positions) + 1))
  (lines : InI32 (extent (ys positions) + 1))

include columns lines

/-- A screen with a cell is drawn on a canvas with room for all cells. -/
theorem drawScreen_holds {screen : ScreenNode}
    (placed : screen.screenId ∈ positions.map Prod.fst) {canvas : Canvas}
    (holds : Holds positions canvas) :
    ∃ drawn, drawScreen positions ((xs positions).min?.getD 0) ((ys positions).min?.getD 0) canvas
      screen = .ok drawn ∧ Holds positions drawn := by
  cases found : placeOf positions screen.screenId with
  | none => exact absurd placed (placeOf_eq_none.mp found)
  | some cell =>
      have inXs : cell.1 ∈ xs positions := List.mem_map_of_mem (mem_of_placeOf found)
      have inYs : cell.2 ∈ ys positions := List.mem_map_of_mem (mem_of_placeOf found)
      obtain ⟨inX, fitsX⟩ := box_fits inXs columns boxWidth 3
      obtain ⟨inY, fitsY⟩ := box_fits inYs lines boxHeight 2
      simp only [drawScreen, found, checkedSub, inX, inY, if_true, Outcome.ok_bind]
      exact drawBox_draws holds fitsY fitsX screen

theorem drawScreens_holds {screens : List ScreenNode}
    (placed : ∀ screen ∈ screens, screen.screenId ∈ positions.map Prod.fst) {canvas : Canvas}
    (holds : Holds positions canvas) :
    ∃ drawn, screens.foldlM
      (drawScreen positions ((xs positions).min?.getD 0) ((ys positions).min?.getD 0)) canvas =
        .ok drawn ∧ Holds positions drawn := by
  induction screens generalizing canvas with
  | nil => exact ⟨canvas, rfl, holds⟩
  | cons screen screens induction =>
      obtain ⟨here, rest⟩ := List.forall_mem_cons.mp placed
      obtain ⟨drawn, step, holds⟩ := drawScreen_holds columns lines here holds
      rw [List.foldlM_cons, step, Outcome.ok_bind]
      exact induction rest holds

end

/-- A diagram of placed screens is drawn exactly when the cells are close. -/
theorem renderDiagram_of_placed {topology : ScreenTopology} {placement : Placement}
    (placed : topology.placeScreens = .ok placement) (nonempty : placement.positions ≠ [])
    (every : ∀ screen ∈ topology.screens, screen.screenId ∈ placement.positions.map Prod.fst) :
    (renderDiagram topology).IsOk ↔
      Close (xs placement.positions) ∧ Close (ys placement.positions) := by
  have someX : xs placement.positions ≠ [] := by simpa [xs] using nonempty
  have someY : ys placement.positions ≠ [] := by simpa [ys] using nonempty
  rw [← extent_fits_iff someX, ← extent_fits_iff someY]
  constructor
  · rintro ⟨result, rendered⟩
    simp only [renderDiagram, placed, Outcome.ok_bind, Outcome.bind_eq_ok, checkedSub_eq_ok,
      checkedAdd_eq_ok] at rendered
    obtain ⟨_, ⟨width, rfl⟩, _, ⟨columns, rfl⟩, _, ⟨height, rfl⟩, _, ⟨lines, rfl⟩, -⟩ := rendered
    exact ⟨⟨width, columns⟩, height, lines⟩
  · rintro ⟨⟨width, columns⟩, height, lines⟩
    have blank : Holds placement.positions
        (List.replicate (asUsize (extent (ys placement.positions) + 1) * (boxHeight + 2))
          (List.replicate (asUsize (extent (xs placement.positions) + 1) * (boxWidth + 3)) ' ')) :=
      ⟨List.length_replicate, fun line member => by
        rw [List.eq_of_mem_replicate member, List.length_replicate]⟩
    obtain ⟨drawn, draws, -⟩ := drawScreens_holds columns lines every blank
    unfold extent at width columns height lines draws
    refine ⟨(.ofList (trimEnd (['\n'].intercalate (drawn.map trimEnd))),
      placement.connected = topology.screens.length && !placement.conflict), ?_⟩
    simp only [renderDiagram, placed, checkedSub, checkedAdd, width, columns, height, lines,
      if_true, Outcome.ok_bind, draws, Outcome.pure_eq]

theorem renderDiagram_complete {topology : ScreenTopology} {placement : Placement}
    (placed : topology.placeScreens = .ok placement) {diagram : String} {complete : Bool}
    (rendered : renderDiagram topology = .ok (diagram, complete)) :
    complete = true ↔
      placement.connected = topology.screens.length ∧ placement.conflict = false := by
  simp only [renderDiagram, placed, Outcome.ok_bind, Outcome.bind_eq_ok, Outcome.pure_eq,
    Outcome.ok.injEq, Prod.mk.injEq] at rendered
  obtain ⟨_, -, _, -, _, -, _, -, _, -, -, rfl⟩ := rendered
  simp

end Rflow
