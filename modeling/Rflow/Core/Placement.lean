import Rflow.Core.Validation

/-!
# Free positions around a screen

Which screens stand in the way of placing one screen on each side of another.
-/

namespace Rflow

open Foundation

structure PlacementAvailability where
  position : RelativePosition
  occupiedBy : List ScreenId
  deriving DecidableEq, Repr

/-- The screen on the other side of a link at an edge. -/
def ScreenLink.across (link : ScreenLink) (edge : ScreenEdge) : Option ScreenId :=
  if link.fromEdge = edge then some link.toEdge.screenId
  else if link.toEdge = edge then some link.fromEdge.screenId
  else none

/-- Append an item unless it is already listed. -/
def appendNew (items : List ScreenId) (item : ScreenId) : List ScreenId :=
  if item ∈ items then items else items ++ [item]

namespace ScreenTopology

/-- The screens linked to one of the edges, each once, in the order of links and edges. -/
def occupants (topology : ScreenTopology) (edges : List ScreenEdge) : List ScreenId :=
  (topology.links.flatMap fun link => edges.filterMap link.across).foldl appendNew []

def placementAvailability (topology : ScreenTopology) (anchorId screenId : ScreenId) :
    Outcome String (List PlacementAvailability) := do
  Outcome.require (anchorId ≠ screenId) "a screen cannot be placed relative to itself"
  Outcome.require (topology.find anchorId).isSome
    ("screen " ++ anchorId.value ++ " is not in the topology")
  Outcome.require (topology.find screenId).isSome
    ("screen " ++ screenId.value ++ " is not in the topology")
  pure ([RelativePosition.leftOf, .rightOf, .above, .below].map fun position =>
    { position
      occupiedBy := topology.occupants
        [{ screenId := anchorId, edge := (placementEdges position).1 },
          { screenId, edge := (placementEdges position).2 }] })

end ScreenTopology
end Rflow
