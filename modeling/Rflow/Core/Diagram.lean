import Rflow.Core.Validation
import Rflow.Foundation.BreadthFirst

/-!
# Diagrams of the layout

How the diagram of a topology is drawn.  The screens get cells of a grid: those that links lead to
are placed breadth first, each beside the screen that it is met from, and the others in a row to the
right.  Every screen is drawn as a box on a canvas of characters.  The diagram is complete when
every screen was met and none was met at two cells.
-/

namespace Rflow

open Foundation BreadthFirst

/-- A column and a row of the grid. -/
abbrev Cell := Int × Int

/-- The step across an edge. -/
def Edge.delta : Edge → Cell
  | top => (0, -1)
  | right => (1, 0)
  | bottom => (0, 1)
  | left => (-1, 0)

/-- A loop of the model used up its fuel. -/
inductive Exhausted where
  | exhausted
  deriving DecidableEq

/-! ## Cells -/

/-- The screen that a link leads to from a screen, and the edge by which it leaves. -/
def ScreenLink.leave (link : ScreenLink) (id : ScreenId) : Option (ScreenId × Edge) :=
  if link.fromEdge.screenId = id then
    some (link.toEdge.screenId, link.fromEdge.edge)
  else if link.toEdge.screenId = id then
    some (link.fromEdge.screenId, link.toEdge.edge)
  else
    none

/-- The body of the loop over the links. -/
def placeLinks (id : ScreenId) (origin : Cell) :
    List ScreenLink → Search ScreenId Cell → Outcome Exhausted (Search ScreenId Cell)
  | [], search => .ok search
  | link :: links, search =>
      match link.leave id with
      | none => placeLinks id origin links search
      | some (target, edge) => do
          let x ← checkedAdd origin.1 edge.delta.1
          let y ← checkedAdd origin.2 edge.delta.2
          match placeOf search.placed target with
          | some existing =>
              if existing ≠ (x, y) then
                placeLinks id origin links { search with conflict := true }
              else
                placeLinks id origin links search
          | none =>
              placeLinks id origin links
                { search with
                  placed := search.placed ++ [(target, (x, y))]
                  queue := search.queue ++ [target] }

/-- The loop over the queue. -/
def placeQueued (links : List ScreenLink) :
    Nat → Search ScreenId Cell → Outcome Exhausted (Search ScreenId Cell)
  | fuel, search =>
      match search.queue, fuel with
      | [], _ => .ok search
      | _ :: _, 0 => .err .exhausted
      | id :: queue, fuel + 1 =>
          match placeOf search.placed id with
          | none => .panic "no entry found for key"
          | some origin => do
              let search ← placeLinks id origin links { search with queue }
              placeQueued links fuel search

/-- The screens without a cell get the cells of a row from a column on. -/
def placeRest : List ScreenNode → List (ScreenId × Cell) → Int →
    Outcome Exhausted (List (ScreenId × Cell))
  | [], positions, _ => .ok positions
  | screen :: screens, positions, nextX =>
      match placeOf positions screen.screenId with
      | some _ => placeRest screens positions nextX
      | none => do
          let next ← checkedAdd nextX 1
          placeRest screens (positions ++ [(screen.screenId, (nextX, 0))]) next

/-- The columns of the cells. -/
def xs (positions : List (ScreenId × Cell)) : List Int := positions.map fun entry => entry.2.1

/-- The lines of the cells. -/
def ys (positions : List (ScreenId × Cell)) : List Int := positions.map fun entry => entry.2.2

/-- The cells of the screens, how many of them links lead to, and whether one was met at two. -/
structure Placement where
  positions : List (ScreenId × Cell)
  connected : Nat
  conflict : Bool
  deriving DecidableEq

namespace ScreenTopology

/-- The screen of this device, or else the first one. -/
def firstScreen (topology : ScreenTopology) : Option ScreenNode :=
  (topology.screens.find? fun screen => screen.thisDevice).or topology.screens.head?

/-- Enough for the first screen and both ends of every link. -/
def placementFuel (topology : ScreenTopology) : Nat := 1 + 2 * topology.links.length

def placeScreens (topology : ScreenTopology) : Outcome Exhausted Placement :=
  match topology.firstScreen with
  | none => .panic "index out of bounds: the len is 0 but the index is 0"
  | some first => do
      let search ←
        placeQueued topology.links topology.placementFuel (Search.start first.screenId)
      let nextX ← checkedAdd ((xs search.placed).max?.getD (-1)) 2
      let positions ← placeRest topology.screens search.placed nextX
      pure { positions, connected := search.placed.length, conflict := search.conflict }

end ScreenTopology

/-! ## The canvas -/

/-- Lines of characters. -/
abbrev Canvas := List (List Char)

def indexPanic (length index : Nat) : String :=
  "index out of bounds: the len is " ++ toString length ++ " but the index is " ++ toString index

def setChar (canvas : Canvas) (y x : Nat) (character : Char) : Outcome Exhausted Canvas :=
  match canvas[y]? with
  | none => .panic (indexPanic canvas.length y)
  | some line =>
      if x < line.length then
        .ok (canvas.set y (line.set x character))
      else
        .panic (indexPanic line.length x)

def fillChars (canvas : Canvas) (y start stop : Nat) (character : Char) :
    Outcome Exhausted Canvas :=
  match canvas[y]? with
  | none => .panic (indexPanic canvas.length y)
  | some line =>
      if stop < start then
        .panic ("slice index starts at " ++ toString start ++ " but ends at " ++ toString stop)
      else if line.length < stop then
        .panic ("range end index " ++ toString stop ++ " out of range for slice of length " ++
          toString line.length)
      else
        .ok (canvas.set y
          (line.take start ++ List.replicate (stop - start) character ++ line.drop stop))

def writeClipped (canvas : Canvas) (x y : Nat) (text : String) (limit : Nat) :
    Outcome Exhausted Canvas :=
  (text.toList.take limit).zipIdx.foldlM
    (fun canvas (character, offset) => setChar canvas y (x + offset) character) canvas

def boxWidth : Nat := 28

def boxHeight : Nat := 4

def drawBox (canvas : Canvas) (x y : Nat) (screen : ScreenNode) : Outcome Exhausted Canvas := do
  let canvas ← fillChars canvas y (x + 1) (x + boxWidth - 1) '─'
  let canvas ← fillChars canvas (y + 3) (x + 1) (x + boxWidth - 1) '─'
  let canvas ← setChar canvas y x '┌'
  let canvas ← setChar canvas y (x + boxWidth - 1) '┐'
  let canvas ← setChar canvas (y + 3) x '└'
  let canvas ← setChar canvas (y + 3) (x + boxWidth - 1) '┘'
  let canvas ← setChar canvas (y + 1) x '│'
  let canvas ← setChar canvas (y + 1) (x + boxWidth - 1) '│'
  let canvas ← setChar canvas (y + 2) x '│'
  let canvas ← setChar canvas (y + 2) (x + boxWidth - 1) '│'
  let size := screen.effectiveSize
  let canvas ← writeClipped canvas (x + 2) (y + 1)
    (screen.deviceName ++ if screen.thisDevice then " ★" else "") (boxWidth - 4)
  writeClipped canvas (x + 2) (y + 2)
    (screen.name ++ " " ++ toString size.width ++ "×" ++ toString size.height ++
      if screen.online then "" else " offline") (boxWidth - 4)

/-! ## Drawing on the canvas -/

/-- Every line of the canvas has the same number of columns. -/
def Sized (rows columns : Nat) (canvas : Canvas) : Prop :=
  canvas.length = rows ∧ ∀ line ∈ canvas, line.length = columns

/-- A call returns a canvas of the size. -/
def Draws (rows columns : Nat) (call : Outcome Exhausted Canvas) : Prop :=
  ∃ canvas, call = .ok canvas ∧ Sized rows columns canvas

variable {rows columns : Nat} {canvas : Canvas}

theorem Sized.draws (sized : Sized rows columns canvas) : Draws rows columns (.ok canvas) :=
  ⟨canvas, rfl, sized⟩

theorem Draws.bind {call : Outcome Exhausted Canvas} {next : Canvas → Outcome Exhausted Canvas}
    (draws : Draws rows columns call)
    (after : ∀ canvas, Sized rows columns canvas → Draws rows columns (next canvas)) :
    Draws rows columns (call >>= next) := by
  obtain ⟨canvas, rfl, sized⟩ := draws
  exact after canvas sized

theorem Sized.set (sized : Sized rows columns canvas) (y : Nat) {line : List Char}
    (length : line.length = columns) : Sized rows columns (canvas.set y line) := by
  refine ⟨by rw [List.length_set, sized.1], fun other member => ?_⟩
  rcases List.mem_or_eq_of_mem_set member with old | rfl
  · exact sized.2 other old
  · exact length

theorem setChar_draws (sized : Sized rows columns canvas) {y x : Nat} (inRows : y < rows)
    (inColumns : x < columns) (character : Char) :
    Draws rows columns (setChar canvas y x character) := by
  have inCanvas : y < canvas.length := sized.1 ▸ inRows
  have length : canvas[y].length = columns := sized.2 _ (List.getElem_mem inCanvas)
  simp only [setChar, List.getElem?_eq_getElem inCanvas, length, inColumns, if_true]
  exact (sized.set y (by rw [List.length_set, length])).draws

theorem fillChars_draws (sized : Sized rows columns canvas) {y start stop : Nat}
    (inRows : y < rows) (ordered : start ≤ stop) (inColumns : stop ≤ columns) (character : Char) :
    Draws rows columns (fillChars canvas y start stop character) := by
  have inCanvas : y < canvas.length := sized.1 ▸ inRows
  have length : canvas[y].length = columns := sized.2 _ (List.getElem_mem inCanvas)
  simp only [fillChars, List.getElem?_eq_getElem inCanvas, length, ordered.not_gt,
    inColumns.not_gt, if_false]
  refine (sized.set y ?_).draws
  simp only [List.length_append, List.length_take, List.length_replicate, List.length_drop, length]
  omega

theorem writeClipped_draws (sized : Sized rows columns canvas) {x y limit : Nat}
    (inRows : y < rows) (inColumns : x + limit ≤ columns) (text : String) :
    Draws rows columns (writeClipped canvas x y text limit) := by
  have near : ∀ item ∈ (text.toList.take limit).zipIdx, x + item.2 < columns := by
    intro item member
    have below := List.snd_lt_of_mem_zipIdx member
    have short := List.length_take_le limit text.toList
    omega
  rw [writeClipped]
  generalize (text.toList.take limit).zipIdx = items at near
  induction items generalizing canvas with
  | nil => exact sized.draws
  | cons item items induction =>
      obtain ⟨here, rest⟩ := List.forall_mem_cons.mp near
      rw [List.foldlM_cons]
      exact (setChar_draws sized inRows here item.1).bind fun _ sized => induction sized rest

/-- A box is drawn where it has room. -/
theorem drawBox_draws (sized : Sized rows columns canvas) {x y : Nat}
    (inRows : y + boxHeight ≤ rows) (inColumns : x + boxWidth ≤ columns) (screen : ScreenNode) :
    Draws rows columns (drawBox canvas x y screen) := by
  have height : boxHeight = 4 := rfl
  have width : boxWidth = 28 := rfl
  rw [drawBox]
  refine (fillChars_draws sized (by omega) (by omega) (by omega) '─').bind fun _ sized => ?_
  refine (fillChars_draws sized (by omega) (by omega) (by omega) '─').bind fun _ sized => ?_
  refine (setChar_draws sized (by omega) (by omega) '┌').bind fun _ sized => ?_
  refine (setChar_draws sized (by omega) (by omega) '┐').bind fun _ sized => ?_
  refine (setChar_draws sized (by omega) (by omega) '└').bind fun _ sized => ?_
  refine (setChar_draws sized (by omega) (by omega) '┘').bind fun _ sized => ?_
  refine (setChar_draws sized (by omega) (by omega) '│').bind fun _ sized => ?_
  refine (setChar_draws sized (by omega) (by omega) '│').bind fun _ sized => ?_
  refine (setChar_draws sized (by omega) (by omega) '│').bind fun _ sized => ?_
  refine (setChar_draws sized (by omega) (by omega) '│').bind fun _ sized => ?_
  refine (writeClipped_draws sized (by omega) (by omega) _).bind fun _ sized => ?_
  exact writeClipped_draws sized (by omega) (by omega) _

/-! ## The diagram -/

/-- `str::trim_end`. -/
def trimEnd (text : List Char) : List Char := (text.reverse.dropWhile isWhiteSpace).reverse

def drawScreen (positions : List (ScreenId × Cell)) (minX minY : Int) (canvas : Canvas)
    (screen : ScreenNode) : Outcome Exhausted Canvas :=
  match placeOf positions screen.screenId with
  | none => .panic "no entry found for key"
  | some (gx, gy) => do
      let column ← checkedSub gx minX
      let row ← checkedSub gy minY
      drawBox canvas (asUsize column * (boxWidth + 3)) (asUsize row * (boxHeight + 2)) screen

/-- The diagram, and whether it is complete. -/
def renderDiagram (topology : ScreenTopology) : Outcome Exhausted (String × Bool) := do
  let placement ← topology.placeScreens
  let minX := (xs placement.positions).min?.getD 0
  let minY := (ys placement.positions).min?.getD 0
  let width ← checkedSub ((xs placement.positions).max?.getD 0) minX
  let columns ← checkedAdd width 1
  let height ← checkedSub ((ys placement.positions).max?.getD 0) minY
  let rows ← checkedAdd height 1
  let blank := List.replicate (asUsize rows * (boxHeight + 2))
    (List.replicate (asUsize columns * (boxWidth + 3)) ' ')
  let canvas ← topology.screens.foldlM (drawScreen placement.positions minX minY) blank
  let diagram := ['\n'].intercalate (canvas.map trimEnd)
  pure (.ofList (trimEnd diagram),
    placement.connected = topology.screens.length && !placement.conflict)

end Rflow
