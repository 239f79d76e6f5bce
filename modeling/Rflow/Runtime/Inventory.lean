import Rflow.Core.CursorRouter
import Rflow.Core.Placement
import Rflow.Trust.Store
import Rflow.Wire.Protocol

/-!
# Reported screens

What the devices report about their screens, what the host accepts of it, and how accepted reports
are merged into the inventory.
-/

namespace Rflow

open Foundation

/-- A screen as the platform detects it, at its place in the device's own coordinates. -/
structure DetectedScreen where
  stableId : String
  name : String
  logicalSize : ScreenSize
  x : Int
  y : Int
  primary : Bool
  deriving DecidableEq

structure PeerSummary where
  deviceId : DeviceId
  displayName : String
  deriving DecidableEq

/-- The device id under which a device's screens are listed. -/
def DeviceId.topologyId (deviceId : DeviceId) : TopologyDeviceId := ⟨deviceId.display⟩

/-- The id of a device's screen in the topology. -/
def ScreenId.ofDevice (deviceId : TopologyDeviceId) (stableId : String) : ScreenId :=
  ⟨deviceId.value ++ "/" ++ stableId⟩

def wireScreens (screens : List DetectedScreen) : List WireScreenDescriptor :=
  screens.map fun screen =>
    { stableId := screen.stableId
      name := screen.name
      width := screen.logicalSize.width
      height := screen.logicalSize.height
      primary := screen.primary }

/-- A visible text of at most 256 bytes. -/
def isReportText (text : String) : Bool := !isBlank text && text.utf8ByteSize ≤ 256

/-- The checks on the screens of one report, in order. -/
def checkWireScreens (seen : List String) : List WireScreenDescriptor → Outcome String Unit
  | [] => .ok ()
  | screen :: rest => do
      Outcome.require (isReportText screen.stableId ∧ isReportText screen.name)
        "peer screen IDs and names must contain 1 to 256 bytes"
      Outcome.require (screen.stableId ∉ seen)
        ("peer reported duplicate screen ID " ++ screen.stableId)
      let _ ← ScreenSize.new screen.width screen.height
      checkWireScreens (screen.stableId :: seen) rest

/-- What the host accepts as the screens of one device. -/
structure AcceptedReport (screens : List WireScreenDescriptor) : Prop where
  nonempty : screens ≠ []
  atMost : screens.length ≤ 64
  texts : ∀ screen ∈ screens, isReportText screen.stableId ∧ isReportText screen.name
  distinct : (screens.map WireScreenDescriptor.stableId).Nodup
  positive : ∀ screen ∈ screens, 0 < screen.width ∧ 0 < screen.height

/-- The screens of one report that passed the checks. -/
structure ReportedScreens where
  screens : List WireScreenDescriptor
  accepted : AcceptedReport screens
  deriving DecidableEq

theorem checkWireScreens_eq_ok {seen : List String} {screens : List WireScreenDescriptor} :
    checkWireScreens seen screens = .ok () ↔
      (∀ screen ∈ screens, isReportText screen.stableId ∧ isReportText screen.name) ∧
        (screens.map WireScreenDescriptor.stableId).Nodup ∧
        (∀ screen ∈ screens, screen.stableId ∉ seen) ∧
        ∀ screen ∈ screens, 0 < screen.width ∧ 0 < screen.height := by
  induction screens generalizing seen with
  | nil => simp [checkWireScreens]
  | cons screen rest induction =>
      simp only [checkWireScreens, Outcome.check_bind_eq_ok, Outcome.require_eq_ok,
        List.forall_mem_cons, List.map_cons, List.nodup_cons]
      simp only [Outcome.bind_eq_ok, ScreenSize.new_eq_ok, induction]
      constructor
      · rintro ⟨texts, fresh, _, ⟨positive, _⟩, restTexts, distinct, restFresh, restPositive⟩
        refine ⟨⟨texts, restTexts⟩, ⟨?_, distinct⟩, ⟨fresh, ?_⟩, positive, restPositive⟩
        · intro again
          obtain ⟨other, member, same⟩ := List.mem_map.mp again
          exact restFresh other member (by simp [same])
        · exact fun other member old => restFresh other member (List.mem_cons_of_mem _ old)
      · rintro ⟨⟨texts, restTexts⟩, ⟨fresh, distinct⟩, ⟨unseen, restUnseen⟩, positive, restPositive⟩
        refine ⟨texts, unseen, _, ⟨positive, rfl⟩, restTexts, distinct, ?_, restPositive⟩
        intro other member old
        rcases List.mem_cons.mp old with same | old
        · exact fresh (List.mem_map.mpr ⟨other, member, same⟩)
        · exact restUnseen other member old

def validateWireScreens (screens : List WireScreenDescriptor) : Outcome String ReportedScreens :=
  if empty : screens = [] ∨ 64 < screens.length then
    .err "peer must report between 1 and 64 screens"
  else
    match checked : checkWireScreens [] screens with
    | .ok () =>
        .ok
          { screens
            accepted := by
              obtain ⟨texts, distinct, _, positive⟩ := checkWireScreens_eq_ok.mp checked
              obtain ⟨nonempty, atMost⟩ := not_or.mp empty
              exact ⟨nonempty, not_lt.mp atMost, texts, distinct, positive⟩ }
    | .err error => .err error
    | .panic message => .panic message

/-- Update the first entry that matches, or append a new one. -/
def upsert {α : Type} (isMatch : α → Bool) (update : α → α) (fresh : α) : List α → List α
  | [] => [fresh]
  | item :: rest =>
      if isMatch item then update item :: rest else item :: upsert isMatch update fresh rest

/-- An entry of an updated list is new, old, or an updated match. -/
theorem mem_upsert {α : Type} {isMatch : α → Bool} {update : α → α} {fresh item : α}
    {items : List α} (member : item ∈ upsert isMatch update fresh items) :
    item = fresh ∨ item ∈ items ∨ ∃ old ∈ items, isMatch old = true ∧ item = update old := by
  induction items with
  | nil => exact Or.inl (List.mem_singleton.mp member)
  | cons head items induction =>
      unfold upsert at member
      split_ifs at member with matched
      · rcases List.mem_cons.mp member with rfl | later
        · exact Or.inr (Or.inr ⟨head, List.mem_cons_self, matched, rfl⟩)
        · exact Or.inr (Or.inl (List.mem_cons_of_mem _ later))
      · rcases List.mem_cons.mp member with rfl | later
        · exact Or.inr (Or.inl List.mem_cons_self)
        · rcases induction later with same | old | ⟨old, listed, same⟩
          · exact Or.inl same
          · exact Or.inr (Or.inl (List.mem_cons_of_mem _ old))
          · exact Or.inr (Or.inr ⟨old, List.mem_cons_of_mem _ listed, same⟩)

/-- Change the entries of one device. -/
def ScreenInventory.onDevice (inventory : ScreenInventory) (deviceId : TopologyDeviceId)
    (change : ScreenDescriptor → ScreenDescriptor) : ScreenInventory where
  screens := inventory.screens.map fun screen =>
    if screen.deviceId = deviceId then change screen else screen

/-- Mark the screens of one device offline. -/
def ScreenInventory.markOffline (inventory : ScreenInventory) (deviceId : TopologyDeviceId) :
    ScreenInventory :=
  inventory.onDevice deviceId fun screen => { screen with online := false }

/-- Enter one detected screen of this device into the inventory. -/
def mergeLocalScreen (deviceName : String) (deviceId : TopologyDeviceId)
    (inventory : ScreenInventory) (screen : DetectedScreen) : ScreenInventory where
  screens :=
    let screenId := ScreenId.ofDevice deviceId screen.stableId
    upsert (fun node => node.screenId = screenId && node.deviceId = deviceId)
      (fun node => { node with
        deviceName
        name := screen.name
        logicalSize := screen.logicalSize
        online := true
        thisDevice := true })
      { screenId, deviceId, deviceName
        name := screen.name
        logicalSize := screen.logicalSize
        primary := screen.primary
        online := true
        thisDevice := true }
      inventory.screens

def mergeLocalInventory (inventory : ScreenInventory) (deviceName : String) (deviceId : DeviceId)
    (screens : List DetectedScreen) : ScreenInventory :=
  screens.foldl (mergeLocalScreen deviceName deviceId.topologyId)
    (inventory.onDevice deviceId.topologyId fun node =>
      { node with online := false, thisDevice := true })

def reconcileDiscoveredInventory (inventory : ScreenInventory) (deviceName : String)
    (deviceId : DeviceId) (screens : List DetectedScreen) : ScreenInventory :=
  let cleared := inventory.screens.map fun node =>
    { node with online := false, thisDevice := false }
  mergeLocalInventory { screens := cleared } deviceName deviceId screens

/-- Enter one reported screen of a peer into the inventory. -/
def mergeRemoteScreen (deviceName : String) (deviceId : TopologyDeviceId)
    (inventory : ScreenInventory) (screen : WireScreenDescriptor) : ScreenInventory where
  screens :=
    let screenId := ScreenId.ofDevice deviceId screen.stableId
    let logicalSize : ScreenSize := { width := screen.width, height := screen.height }
    upsert (fun existing => existing.screenId = screenId)
      (fun existing => { existing with
        deviceId, deviceName, logicalSize
        name := screen.name
        primary := screen.primary
        online := true
        thisDevice := false })
      { screenId, deviceId, deviceName, logicalSize
        name := screen.name
        primary := screen.primary
        online := true
        thisDevice := false }
      inventory.screens

def mergeRemoteInventory (inventory : ScreenInventory) (peer : PeerSummary)
    (report : ReportedScreens) : ScreenInventory :=
  report.screens.foldl (mergeRemoteScreen peer.displayName peer.deviceId.topologyId)
    (inventory.onDevice peer.deviceId.topologyId fun screen =>
      { screen with online := false, thisDevice := false })

structure PlacementOptionSummary where
  position : RelativePosition
  occupiedBy : List String
  deriving DecidableEq

structure PlacementScreenSummary where
  screenId : ScreenId
  name : String
  options : List PlacementOptionSummary
  deriving DecidableEq

structure PlacementRequestSummary where
  deviceName : String
  revision : Nat
  anchorScreen : ScreenId
  anchorName : String
  screens : List PlacementScreenSummary
  deriving DecidableEq

/-- How an occupying screen is named in a placement request. -/
def occupantName (topology : ScreenTopology) (screenId : ScreenId) : String :=
  match topology.find screenId with
  | some screen => screen.deviceName ++ "/" ++ screen.name
  | none => screenId.value

/-- The options of each screen to place, in order. -/
def placementScreens (topology : ScreenTopology) (anchor : ScreenId) :
    List ScreenDescriptor → Outcome String (List PlacementScreenSummary)
  | [] => .ok []
  | screen :: rest => do
      let options ← topology.placementAvailability anchor screen.screenId
      let others ← placementScreens topology anchor rest
      pure ({ screenId := screen.screenId
              name := screen.name
              options := options.map fun availability =>
                { position := availability.position
                  occupiedBy := availability.occupiedBy.map (occupantName topology) } } :: others)

def placementRequest (newlyTrusted : Bool) (peer : PeerSummary) (inventory : ScreenInventory)
    (topology : ScreenTopology) : Outcome String (Option PlacementRequestSummary) :=
  if newlyTrusted = false then
    .ok none
  else do
    let anchor ← Outcome.ofOption "no online local screen is available for peer placement"
      ((inventory.screens.find? fun screen =>
          screen.thisDevice && screen.online && screen.primary).or
        (inventory.screens.find? fun screen => screen.thisDevice && screen.online))
    let screens ← placementScreens topology anchor.screenId
      (inventory.screens.filter fun screen =>
        screen.deviceId = peer.deviceId.topologyId && screen.online &&
          !topology.links.any fun link => link.touches screen.screenId)
    if screens = [] then
      pure none
    else
      pure (some
        { deviceName := peer.displayName
          revision := topology.revision
          anchorScreen := anchor.screenId
          anchorName := anchor.deviceName ++ "/" ++ anchor.name
          screens })

/-- The side of the local screen that a cardinal direction stands for. -/
def ScreenDirection.position : ScreenDirection → Option RelativePosition
  | .left => some .leftOf
  | .right => some .rightOf
  | .top => some .above
  | .bottom => some .below
  | .topRight | .bottomRight | .bottomLeft | .topLeft => none

def migrateLegacyDirection (layout : ScreenLayout) (inventory : ScreenInventory)
    (direction : ScreenDirection) : Outcome String ScreenLayout := do
  let anchor ← Outcome.ofOption "cannot migrate direction without a local screen"
    ((inventory.screens.find? fun screen => screen.thisDevice && screen.primary).or
      (inventory.screens.find? fun screen => screen.thisDevice))
  match inventory.screens.filter fun screen => !screen.thisDevice && screen.online with
  | [remote] =>
      let position ← Outcome.ofOption "diagonal --direction cannot be migrated to edge topology"
        direction.position
      (layout.apply inventory (.place remote.screenId anchor.screenId position false)).mapErr
        LayoutError.display
  | _ => .err "legacy --direction migration requires exactly one online remote screen"

end Rflow
