import Rflow.Core.Numeric

/-!
# Screens, layouts and topologies

A layout is what the user arranged: links between screen edges and size overrides.  An inventory is
what the devices reported.  Resolving a layout against an inventory gives the topology that the
router runs on.
-/

namespace Rflow

open Foundation

/-- Whether a character belongs to the Unicode `White_Space` property that `str::trim` removes. -/
def isWhiteSpace (character : Char) : Bool :=
  let code := character.toNat
  (9 ≤ code && code ≤ 13) || code == 0x20 || code == 0x85 || code == 0xA0 || code == 0x1680 ||
    (0x2000 ≤ code && code ≤ 0x200A) || code == 0x2028 || code == 0x2029 || code == 0x202F ||
    code == 0x205F || code == 0x3000

/-- Whether nothing is left of a string after `trim`. -/
def isBlank (text : String) : Bool := text.toList.all isWhiteSpace

structure ScreenId where
  value : String
  deriving DecidableEq, Repr

structure TopologyDeviceId where
  value : String
  deriving DecidableEq, Repr

inductive Edge where
  | top
  | right
  | bottom
  | left
  deriving DecidableEq, Repr

namespace Edge

/-- The name under which an edge is displayed. -/
def display : Edge → String
  | top => "top"
  | right => "right"
  | bottom => "bottom"
  | left => "left"

/-- The edge that faces this one across a link. -/
def opposite : Edge → Edge
  | top => bottom
  | right => left
  | bottom => top
  | left => right

@[simp]
theorem opposite_opposite (edge : Edge) : edge.opposite.opposite = edge := by
  cases edge <;> rfl

theorem opposite_ne (edge : Edge) : edge.opposite ≠ edge := by
  cases edge <;> decide

end Edge

structure ScreenEdge where
  screenId : ScreenId
  edge : Edge
  deriving DecidableEq, Repr

/-- Width and height of a screen, as decoded: only `ScreenSize.new` checks that they are
positive. -/
structure ScreenSize where
  width : Int
  height : Int
  deriving DecidableEq, Repr

/-- Both dimensions are positive. -/
def ScreenSize.Positive (size : ScreenSize) : Prop := 0 < size.width ∧ 0 < size.height

instance (size : ScreenSize) : Decidable size.Positive :=
  inferInstanceAs (Decidable (0 < size.width ∧ 0 < size.height))

/-- The checked constructor. -/
def ScreenSize.new (width height : Int) : Outcome String ScreenSize :=
  if width ≤ 0 ∨ height ≤ 0 then
    .err "screen dimensions must be positive"
  else
    .ok { width, height }

theorem ScreenSize.new_eq_ok {width height : Int} {size : ScreenSize} :
    new width height = .ok size ↔ (0 < width ∧ 0 < height) ∧ size = { width, height } := by
  unfold new
  split_ifs with bad
  · simp only [false_iff, not_and]
    intro positive
    omega
  · have positive : 0 < width ∧ 0 < height := by omega
    simp only [Outcome.ok.injEq, positive, and_self, true_and]
    exact eq_comm

structure ScreenNode where
  screenId : ScreenId
  deviceId : TopologyDeviceId
  deviceName : String
  name : String
  logicalSize : ScreenSize
  sizeOverride : Option ScreenSize
  online : Bool
  thisDevice : Bool
  deriving DecidableEq, Repr

/-- The size used for routing: the override if there is one. -/
def ScreenNode.effectiveSize (node : ScreenNode) : ScreenSize :=
  node.sizeOverride.getD node.logicalSize

structure ScreenLink where
  fromEdge : ScreenEdge
  toEdge : ScreenEdge
  deriving DecidableEq, Repr

namespace ScreenLink

/-- Both edges of a link, in stored order. -/
def endpoints (link : ScreenLink) : List ScreenEdge := [link.fromEdge, link.toEdge]

/-- Whether one of the two edges belongs to the screen. -/
def touches (link : ScreenLink) (id : ScreenId) : Bool :=
  link.fromEdge.screenId = id || link.toEdge.screenId = id

/-- The two edges face each other. -/
def Facing (link : ScreenLink) : Prop := link.fromEdge.edge.opposite = link.toEdge.edge

instance (link : ScreenLink) : Decidable link.Facing :=
  inferInstanceAs (Decidable (_ = _))

theorem Facing.edges_ne {link : ScreenLink} (facing : link.Facing) :
    link.fromEdge ≠ link.toEdge := by
  intro same
  rw [Facing, same] at facing
  exact Edge.opposite_ne link.toEdge.edge facing

end ScreenLink

def layoutSchemaVersion : Nat := 1

structure ScreenDescriptor where
  screenId : ScreenId
  deviceId : TopologyDeviceId
  deviceName : String
  name : String
  logicalSize : ScreenSize
  primary : Bool
  online : Bool
  thisDevice : Bool
  deriving DecidableEq, Repr

structure ScreenInventory where
  screens : List ScreenDescriptor
  deriving DecidableEq, Repr

structure ScreenSizeOverride where
  screenId : ScreenId
  size : ScreenSize
  deriving DecidableEq, Repr

structure ScreenLayout where
  schemaVersion : Nat
  revision : Nat
  links : List ScreenLink
  sizeOverrides : List ScreenSizeOverride
  deriving DecidableEq, Repr

instance : Inhabited ScreenInventory := ⟨{ screens := [] }⟩

instance : Inhabited ScreenLayout :=
  ⟨{ schemaVersion := layoutSchemaVersion, revision := 0, links := [], sizeOverrides := [] }⟩

structure ScreenTopology where
  revision : Nat
  screens : List ScreenNode
  links : List ScreenLink
  deriving DecidableEq, Repr

instance : Inhabited ScreenTopology := ⟨{ revision := 0, screens := [], links := [] }⟩

inductive RelativePosition where
  | leftOf
  | rightOf
  | above
  | below
  deriving DecidableEq, Repr

/-- The anchor's edge and the placed screen's edge for a relative position. -/
def placementEdges : RelativePosition → Edge × Edge
  | .leftOf => (.left, .right)
  | .rightOf => (.right, .left)
  | .above => (.top, .bottom)
  | .below => (.bottom, .top)

inductive LayoutCommand where
  | place (screenId anchorId : ScreenId) (position : RelativePosition) (replace : Bool)
  | link (fromEdge toEdge : ScreenEdge) (replace : Bool)
  | unlink (edge : ScreenEdge)
  | unplace (screenId : ScreenId)
  | setSizeOverride (screenId : ScreenId) (size : Option ScreenSize)
  | replace (layout : ScreenLayout)
  deriving DecidableEq, Repr

inductive LayoutError where
  | unknownScreen (screen : ScreenId)
  | edgeOccupied (edge : ScreenEdge)
  | invalid (message : String)
  deriving DecidableEq, Repr

/-- The text of a layout error. -/
def LayoutError.display : LayoutError → String
  | unknownScreen screen => "unknown screen " ++ screen.value
  | edgeOccupied edge => edge.screenId.value ++ "." ++ edge.edge.display ++ " is already linked"
  | invalid message => message

/-! ## Checks shared by inventories and topologies -/

/-- Walk over screen ids, refusing a blank one and one that was already seen. -/
def checkScreenIds {ε : Type} (blank : ε) (duplicate : ScreenId → ε) (seen : List ScreenId) :
    List ScreenId → Outcome ε Unit
  | [] => .ok ()
  | id :: rest =>
      if isBlank id.value then
        .err blank
      else if id ∈ seen then
        .err (duplicate id)
      else
        checkScreenIds blank duplicate (id :: seen) rest

/-- Ids that pass the walk: none blank and none repeated. -/
structure DistinctIds (ids : List ScreenId) : Prop where
  visible : ∀ id ∈ ids, isBlank id.value = false
  distinct : ids.Nodup

theorem checkScreenIds_eq_ok {ε : Type} {blank : ε} {duplicate : ScreenId → ε}
    {seen ids : List ScreenId} :
    checkScreenIds blank duplicate seen ids = .ok () ↔
      DistinctIds ids ∧ ∀ id ∈ ids, id ∉ seen := by
  induction ids generalizing seen with
  | nil => simp [checkScreenIds, DistinctIds.mk]
  | cons id rest induction =>
      by_cases isBlankId : isBlank id.value = true
      · simp only [checkScreenIds, isBlankId, if_true, reduceCtorEq, false_iff, not_and]
        intro distinct
        simp [distinct.visible id List.mem_cons_self] at isBlankId
      by_cases repeated : id ∈ seen
      · simp only [checkScreenIds, isBlankId, repeated, if_true, reduceCtorEq, false_iff,
          Bool.false_eq_true, if_false, not_and]
        intro _ fresh
        exact fresh id List.mem_cons_self repeated
      · simp only [checkScreenIds, isBlankId, repeated, if_false, Bool.false_eq_true, induction]
        constructor
        · rintro ⟨⟨visible, distinct⟩, fresh⟩
          have notAgain : id ∉ rest := fun member => by simpa using fresh id member
          refine ⟨⟨?_, List.nodup_cons.mpr ⟨notAgain, distinct⟩⟩, ?_⟩
          · intro other member
            rcases List.mem_cons.mp member with rfl | member
            · simpa using isBlankId
            · exact visible other member
          · intro other member
            rcases List.mem_cons.mp member with rfl | member
            · exact repeated
            · exact fun old => fresh other member (List.mem_cons_of_mem _ old)
        · rintro ⟨⟨visible, distinct⟩, fresh⟩
          obtain ⟨notAgain, distinct⟩ := List.nodup_cons.mp distinct
          refine ⟨⟨fun other member => visible other (List.mem_cons_of_mem _ member), distinct⟩, ?_⟩
          intro other member old
          rcases List.mem_cons.mp old with rfl | old
          · exact notAgain member
          · exact fresh other (List.mem_cons_of_mem _ member) old

/-- Links that join known screens by facing edges, each edge in at most one link. -/
structure LinksWellFormed (known : ScreenId → Prop) (links : List ScreenLink) : Prop where
  known : ∀ link ∈ links, known link.fromEdge.screenId ∧ known link.toEdge.screenId
  facing : ∀ link ∈ links, link.Facing
  exclusive : (links.flatMap ScreenLink.endpoints).Nodup

theorem linksWellFormed_nil (known : ScreenId → Prop) : LinksWellFormed known [] :=
  ⟨by simp, by simp, by simp⟩

theorem linksWellFormed_cons {known : ScreenId → Prop} {link : ScreenLink}
    {links : List ScreenLink} :
    LinksWellFormed known (link :: links) ↔
      (known link.fromEdge.screenId ∧ known link.toEdge.screenId) ∧ link.Facing ∧
        (link.fromEdge ∉ links.flatMap ScreenLink.endpoints ∧
          link.toEdge ∉ links.flatMap ScreenLink.endpoints) ∧
        LinksWellFormed known links := by
  constructor
  · rintro ⟨isKnown, facing, exclusive⟩
    simp only [List.flatMap_cons, ScreenLink.endpoints, List.cons_append, List.nil_append,
      List.nodup_cons, List.mem_cons, not_or] at exclusive
    exact ⟨isKnown link List.mem_cons_self, facing link List.mem_cons_self,
      ⟨exclusive.1.2, exclusive.2.1⟩,
      ⟨fun other member => isKnown other (List.mem_cons_of_mem _ member),
        fun other member => facing other (List.mem_cons_of_mem _ member), exclusive.2.2⟩⟩
  · rintro ⟨isKnown, facing, fresh, rest⟩
    refine ⟨?_, ?_, ?_⟩
    · simpa using ⟨isKnown, rest.known⟩
    · simpa using ⟨facing, rest.facing⟩
    · simp only [List.flatMap_cons, ScreenLink.endpoints, List.cons_append, List.nil_append,
        List.nodup_cons, List.mem_cons, not_or]
      exact ⟨⟨facing.edges_ne, fresh.1⟩, fresh.2, rest.exclusive⟩

end Rflow
