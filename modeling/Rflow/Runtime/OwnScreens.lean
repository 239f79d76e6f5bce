import Rflow.Foundation.Keyed
import Rflow.Runtime.Inventory
import Rflow.Trust.DeviceIds

/-!
# Screens of their own device

Every entry of the inventory belongs to the device whose printed id its own id begins with.  Printed
ids have one length, so whatever a peer sends as the id of a screen, the entry it names is one of
the peer's own.  A report thus reaches the entries of its device only, over any sequence of reports.
-/

namespace Rflow

open Foundation

/-! ## Screen ids of devices -/

namespace ScreenId

variable {device other : DeviceId} {stableId otherId : String}

theorem ofDevice_inj :
    ofDevice device.topologyId stableId = ofDevice other.topologyId otherId ↔
      device = other ∧ stableId = otherId := by
  constructor
  · intro same
    have texts := ScreenId.mk.inj same
    rw [String.append_assoc, String.append_assoc] at texts
    obtain ⟨rfl, tails⟩ := DeviceId.display_append_inj texts
    exact ⟨rfl, (String.append_right_inj "/").mp tails⟩
  · rintro ⟨rfl, rfl⟩
    rfl

theorem isBlank_ofDevice (device : DeviceId) (stableId : String) :
    isBlank (ofDevice device.topologyId stableId).value = false := by
  have visible : ∀ value : Fin 16, isWhiteSpace (hexDigit value) = false := by decide
  obtain ⟨value, digit, rest, shown⟩ := device.exists_display_eq
  simp [isBlank, ofDevice, DeviceId.topologyId, String.toList_append, shown,
    visible ⟨value, digit⟩]

end ScreenId

theorem DeviceId.topologyId_inj {device other : DeviceId} :
    device.topologyId = other.topologyId ↔ device = other :=
  ⟨fun same => DeviceId.display_injective (TopologyDeviceId.mk.inj same), congrArg _⟩

namespace ScreenDescriptor

/-- The entry has the printed id of a device, and an id of its own behind that one and a slash. -/
def Owned (screen : ScreenDescriptor) : Prop :=
  ∃ (device : DeviceId) (stableId : String), screen.deviceId = device.topologyId ∧
    screen.screenId = ScreenId.ofDevice device.topologyId stableId

theorem Owned.deviceId_eq {screen : ScreenDescriptor} {device : DeviceId} {stableId : String}
    (owned : screen.Owned)
    (same : screen.screenId = ScreenId.ofDevice device.topologyId stableId) :
    screen.deviceId = device.topologyId := by
  obtain ⟨owner, _, named, own⟩ := owned
  obtain ⟨rfl, -⟩ := ScreenId.ofDevice_inj.mp (own.symm.trans same)
  exact named

/-- Which screen of which device the entry is about. -/
def identity (screen : ScreenDescriptor) : ScreenId × TopologyDeviceId :=
  (screen.screenId, screen.deviceId)

end ScreenDescriptor

namespace ScreenInventory

/-- Every entry belongs to the device that its id names. -/
def Owned (inventory : ScreenInventory) : Prop := ∀ screen ∈ inventory.screens, screen.Owned

/-- The entries of one device. -/
def screensOf (inventory : ScreenInventory) (device : DeviceId) : List ScreenDescriptor :=
  inventory.screens.filter fun screen => screen.deviceId = device.topologyId

/-- The entries have distinct ids. -/
def DistinctScreens (inventory : ScreenInventory) : Prop :=
  Keyed.Distinct ScreenDescriptor.screenId inventory.screens

/-- An inventory whose entries belong to their devices is valid when the ids are distinct. -/
theorem Owned.validate_eq_ok_iff {inventory : ScreenInventory} (owned : inventory.Owned) :
    inventory.validate = .ok () ↔ inventory.DistinctScreens := by
  rw [validate_eq_ok]
  refine ⟨fun valid => valid.distinct, fun distinct => ⟨fun id member => ?_, distinct⟩⟩
  obtain ⟨screen, listed, rfl⟩ := List.mem_map.mp member
  obtain ⟨device, stableId, -, own⟩ := owned screen listed
  rw [own]
  exact ScreenId.isBlank_ofDevice device stableId

end ScreenInventory

/-! ## Updating the first match -/

section Upsert

variable {α β : Type} {isMatch selected : α → Bool} {update : α → α} {fresh : α} {items : List α}

/-- What is made of other items only leaves the selected ones alone. -/
theorem filter_upsert_of_unselected (fresh_unselected : selected fresh = false)
    (match_unselected : ∀ item ∈ items, isMatch item = true →
      selected item = false ∧ selected (update item) = false) :
    (upsert isMatch update fresh items).filter selected = items.filter selected := by
  induction items with
  | nil => simp [upsert, fresh_unselected]
  | cons item items induction =>
      obtain ⟨head, rest⟩ := List.forall_mem_cons.mp match_unselected
      unfold upsert
      split_ifs with matched
      · simp [head matched]
      · rw [List.filter_cons, List.filter_cons, induction rest]

/-- What is made of selected items only is made among the selected ones. -/
theorem filter_upsert_of_selected (fresh_selected : selected fresh = true)
    (match_selected : ∀ item ∈ items, isMatch item = true →
      selected item = true ∧ selected (update item) = true) :
    (upsert isMatch update fresh items).filter selected =
      upsert isMatch update fresh (items.filter selected) := by
  induction items with
  | nil => simp [upsert, fresh_selected]
  | cons item items induction =>
      obtain ⟨head, rest⟩ := List.forall_mem_cons.mp match_selected
      rw [upsert]
      by_cases matched : isMatch item = true
      · obtain ⟨old, new⟩ := head matched
        rw [if_pos matched, List.filter_cons_of_pos new, List.filter_cons_of_pos old, upsert,
          if_pos matched]
      · rw [if_neg matched]
        by_cases kept : selected item = true
        · rw [List.filter_cons_of_pos kept, List.filter_cons_of_pos kept, induction rest, upsert,
            if_neg matched]
        · rw [List.filter_cons_of_neg kept, List.filter_cons_of_neg kept, induction rest]

/-- A feature that updates keep stays the same in order, or comes with one new item. -/
theorem map_upsert {feature : α → β}
    (update_feature : ∀ item ∈ items, isMatch item = true → feature (update item) = feature item) :
    (upsert isMatch update fresh items).map feature =
      if items.any isMatch then items.map feature else items.map feature ++ [feature fresh] := by
  induction items with
  | nil => rfl
  | cons item items induction =>
      obtain ⟨head, rest⟩ := List.forall_mem_cons.mp update_feature
      rw [upsert]
      by_cases matched : isMatch item = true
      · simp [matched, head matched]
      · have later : (item :: items).any isMatch = items.any isMatch := by simp [matched]
        rw [if_neg matched, List.map_cons, induction rest, later]
        split_ifs <;> rfl

end Upsert

/-! ## Contained steps -/

namespace ScreenInventory

/-- A step that changes the entries of one device only, and removes none. -/
structure Contained (device : DeviceId) (before after : ScreenInventory) : Prop where
  others : ∀ other ≠ device, after.screensOf other = before.screensOf other
  kept : before.screens.map ScreenDescriptor.identity <+:
    after.screens.map ScreenDescriptor.identity
  distinct : before.DistinctScreens → after.DistinctScreens
  owned : after.Owned

variable {inventory before middle after : ScreenInventory} {device other : DeviceId}

theorem Owned.contained_refl (owned : inventory.Owned) : Contained device inventory inventory :=
  ⟨fun _ _ => rfl, List.prefix_rfl, id, owned⟩

theorem Contained.trans (first : Contained device before middle)
    (second : Contained device middle after) : Contained device before after where
  others other different := (second.others other different).trans (first.others other different)
  kept := first.kept.trans second.kept
  distinct := second.distinct ∘ first.distinct
  owned := second.owned

section OnDevice

variable {change : ScreenDescriptor → ScreenDescriptor}
  (keeps : ∀ screen, (change screen).identity = screen.identity)

include keeps

/-- A change of a device's entries keeps which screens the entries are about. -/
theorem identity_onDevice (name : TopologyDeviceId) :
    (inventory.onDevice name change).screens.map ScreenDescriptor.identity =
      inventory.screens.map ScreenDescriptor.identity := by
  rw [onDevice, List.map_map]
  refine List.map_congr_left fun screen _ => ?_
  rw [Function.comp_apply]
  split_ifs
  · exact keeps screen
  · rfl

/-- Changing a device's entries is changing each of them. -/
theorem screensOf_onDevice_self :
    (inventory.onDevice device.topologyId change).screensOf device =
      (inventory.screensOf device).map change := by
  unfold screensOf onDevice
  rw [List.filter_map]
  have still : ∀ screen : ScreenDescriptor,
      (if screen.deviceId = device.topologyId then change screen else screen).deviceId =
        screen.deviceId := by
    intro screen
    split_ifs
    · exact congrArg Prod.snd (keeps screen)
    · rfl
  have selection : inventory.screens.filter
      ((fun screen => decide (screen.deviceId = device.topologyId)) ∘ fun screen =>
        if screen.deviceId = device.topologyId then change screen else screen) =
      inventory.screens.filter fun screen => screen.deviceId = device.topologyId :=
    List.filter_congr fun screen _ => by rw [Function.comp_apply, still]
  rw [selection]
  refine List.map_congr_left fun screen member => if_pos ?_
  simpa using (List.mem_filter.mp member).2

theorem screensOf_onDevice_of_ne (different : other ≠ device) :
    (inventory.onDevice device.topologyId change).screensOf other = inventory.screensOf other := by
  unfold screensOf onDevice
  induction inventory.screens with
  | nil => rfl
  | cons screen rest induction =>
      rw [List.map_cons, List.filter_cons, List.filter_cons, induction]
      by_cases own : screen.deviceId = device.topologyId
      · have apart : device.topologyId ≠ other.topologyId :=
          fun same => different (DeviceId.topologyId_inj.mp same).symm
        have kept : (change screen).deviceId = device.topologyId :=
          (congrArg Prod.snd (keeps screen)).trans own
        simp [own, kept, apart]
      · simp [own]

theorem Owned.contained_onDevice (owned : inventory.Owned) :
    Contained device inventory (inventory.onDevice device.topologyId change) where
  others _ different := screensOf_onDevice_of_ne keeps different
  kept := (identity_onDevice keeps _).symm ▸ List.prefix_rfl
  distinct distinct := by
    have same : (inventory.onDevice device.topologyId change).screens.map
        ScreenDescriptor.identity = inventory.screens.map ScreenDescriptor.identity :=
      identity_onDevice keeps device.topologyId
    have ids := congrArg (List.map Prod.fst) same
    rw [List.map_map, List.map_map] at ids
    exact (congrArg List.Nodup ids).mpr distinct
  owned := by
    intro _ member
    obtain ⟨screen, listed, rfl⟩ := List.mem_map.mp member
    split_ifs
    · obtain ⟨owner, stableId, named, own⟩ := owned screen listed
      obtain ⟨sameScreen, sameDevice⟩ := Prod.mk.inj (keeps screen)
      exact ⟨owner, stableId, sameDevice.trans named, sameScreen.trans own⟩
    · exact owned screen listed

end OnDevice
end ScreenInventory

/-! ## Reports of peers -/

open ScreenInventory

section MergeRemoteScreen

variable {inventory base : ScreenInventory} {device other : DeviceId} {deviceName : String}
  {screen : WireScreenDescriptor}

/-- The entry that a peer's screen updates is the peer's own. -/
theorem ScreenInventory.Owned.deviceId_of_match (owned : base.Owned) {existing : ScreenDescriptor}
    (listed : existing ∈ base.screens)
    (matched : decide (existing.screenId = ScreenId.ofDevice device.topologyId screen.stableId) =
      true) : existing.deviceId = device.topologyId :=
  (owned existing listed).deviceId_eq (of_decide_eq_true matched)

theorem ScreenInventory.Owned.contained_mergeRemoteScreen (owned : base.Owned) :
    Contained device base (mergeRemoteScreen deviceName device.topologyId base screen) where
  others := by
    intro other different
    have apart : device.topologyId ≠ other.topologyId :=
      fun same => different (DeviceId.topologyId_inj.mp same).symm
    refine filter_upsert_of_unselected (decide_eq_false apart) fun existing listed matched => ?_
    have own := owned.deviceId_of_match listed matched
    exact ⟨decide_eq_false (own ▸ apart), decide_eq_false apart⟩
  kept := by
    unfold mergeRemoteScreen
    rw [map_upsert]
    · split_ifs
      · exact List.prefix_rfl
      · exact List.prefix_append _ _
    · intro existing listed matched
      exact congrArg (Prod.mk existing.screenId) (owned.deviceId_of_match listed matched).symm
  distinct := by
    intro distinct
    unfold DistinctScreens Keyed.Distinct mergeRemoteScreen
    rw [map_upsert]
    · split_ifs with matched
      · exact distinct
      · rw [← List.concat_eq_append]
        refine List.Nodup.concat (fun again => matched ?_) distinct
        obtain ⟨existing, listed, same⟩ := List.mem_map.mp again
        exact List.any_eq_true.mpr ⟨existing, listed, decide_eq_true same⟩
    · intro existing listed matched
      rfl
  owned := by
    intro _ member
    rcases mem_upsert member with rfl | old | ⟨existing, listed, matched, rfl⟩
    · exact ⟨device, screen.stableId, rfl, rfl⟩
    · exact owned _ old
    · exact ⟨device, screen.stableId, rfl, of_decide_eq_true matched⟩

/-- What a peer's screen makes of the peer's entries depends on these alone. -/
theorem ScreenInventory.Owned.screensOf_mergeRemoteScreen (owned : base.Owned) :
    (mergeRemoteScreen deviceName device.topologyId base screen).screensOf device =
      (mergeRemoteScreen deviceName device.topologyId { screens := base.screensOf device }
        screen).screens :=
  filter_upsert_of_selected (decide_eq_true rfl) fun _ listed matched =>
    ⟨decide_eq_true (owned.deviceId_of_match listed matched), decide_eq_true rfl⟩

theorem ScreenInventory.Owned.contained_foldl (owned : base.Owned)
    (screens : List WireScreenDescriptor) :
    Contained device base
      (screens.foldl (mergeRemoteScreen deviceName device.topologyId) base) := by
  induction screens generalizing base with
  | nil => exact owned.contained_refl
  | cons screen screens induction =>
      have first : Contained device base
          (mergeRemoteScreen deviceName device.topologyId base screen) :=
        owned.contained_mergeRemoteScreen
      exact first.trans (induction first.owned)

theorem ScreenInventory.Owned.screensOf_foldl_congr (owned : base.Owned)
    (ownedToo : inventory.Owned) (same : base.screensOf device = inventory.screensOf device)
    (screens : List WireScreenDescriptor) :
    (screens.foldl (mergeRemoteScreen deviceName device.topologyId) base).screensOf device =
      (screens.foldl (mergeRemoteScreen deviceName device.topologyId) inventory).screensOf
        device := by
  induction screens generalizing base inventory with
  | nil => exact same
  | cons screen screens induction =>
      refine induction owned.contained_mergeRemoteScreen.owned
        ownedToo.contained_mergeRemoteScreen.owned ?_
      rw [owned.screensOf_mergeRemoteScreen, ownedToo.screensOf_mergeRemoteScreen, same]

end MergeRemoteScreen

section Reports

variable {inventory base : ScreenInventory} {device : DeviceId} {peer : PeerSummary}
  {report : ReportedScreens}

/-- The merge of a report is contained in the reporting device. -/
theorem ScreenInventory.Owned.contained_mergeRemoteInventory (owned : inventory.Owned) :
    Contained peer.deviceId inventory (mergeRemoteInventory inventory peer report) := by
  have cleared : Contained peer.deviceId inventory
      (inventory.onDevice peer.deviceId.topologyId fun screen =>
        { screen with online := false, thisDevice := false }) :=
    owned.contained_onDevice fun _ => rfl
  exact cleared.trans (cleared.owned.contained_foldl report.screens)

/-- What a report makes of the device's entries depends on these alone. -/
theorem ScreenInventory.Owned.screensOf_mergeRemoteInventory_congr (owned : base.Owned)
    (ownedToo : inventory.Owned)
    (same : base.screensOf peer.deviceId = inventory.screensOf peer.deviceId) :
    (mergeRemoteInventory base peer report).screensOf peer.deviceId =
      (mergeRemoteInventory inventory peer report).screensOf peer.deviceId := by
  have keeps : ∀ screen : ScreenDescriptor,
      { screen with online := false, thisDevice := false }.identity = screen.identity :=
    fun _ => rfl
  refine (owned.contained_onDevice keeps).owned.screensOf_foldl_congr
    (ownedToo.contained_onDevice keeps).owned ?_ report.screens
  rw [screensOf_onDevice_self keeps, screensOf_onDevice_self keeps, same]

/-- An accepted report of an authenticated peer. -/
structure PeerReport where
  peer : PeerSummary
  screens : ReportedScreens
  deriving DecidableEq

namespace ScreenInventory

/-- Merge the reports of peers in the order they come in. -/
def mergeReports (inventory : ScreenInventory) (reports : List PeerReport) : ScreenInventory :=
  reports.foldl (fun inventory report => mergeRemoteInventory inventory report.peer report.screens)
    inventory

/-- What sequences of reports can do: the entries of a device are what the device's own reports make
of them, no entry goes or passes to another device, and ids stay unique and of their form. -/
structure Confined (before after : ScreenInventory) (reports : List PeerReport) : Prop where
  own : ∀ device, after.screensOf device =
    (before.mergeReports (reports.filter fun report => report.peer.deviceId = device)).screensOf
      device
  unreported : ∀ device, (∀ report ∈ reports, report.peer.deviceId ≠ device) →
    after.screensOf device = before.screensOf device
  kept : before.screens.map ScreenDescriptor.identity <+:
    after.screens.map ScreenDescriptor.identity
  distinct : before.DistinctScreens → after.DistinctScreens
  owned : after.Owned

/-- Entries that agree on a device agree after all reports of the device, whatever other reports
come between. -/
theorem Owned.screensOf_mergeReports_filter (owned : base.Owned) (ownedToo : inventory.Owned)
    (same : base.screensOf device = inventory.screensOf device) (reports : List PeerReport) :
    (base.mergeReports reports).screensOf device =
      (inventory.mergeReports (reports.filter fun report =>
        report.peer.deviceId = device)).screensOf device := by
  induction reports generalizing base inventory with
  | nil => exact same
  | cons report rest induction =>
      have merged : Contained report.peer.deviceId base
          (mergeRemoteInventory base report.peer report.screens) :=
        owned.contained_mergeRemoteInventory
      by_cases own : report.peer.deviceId = device
      · subst own
        rw [List.filter_cons_of_pos (by simp)]
        exact induction merged.owned ownedToo.contained_mergeRemoteInventory.owned
          (owned.screensOf_mergeRemoteInventory_congr ownedToo same)
      · rw [List.filter_cons_of_neg (by simpa using own)]
        exact induction merged.owned ownedToo ((merged.others device (Ne.symm own)).trans same)

theorem Owned.mergeReports_kept (owned : inventory.Owned) (reports : List PeerReport) :
    (inventory.screens.map ScreenDescriptor.identity <+:
        (inventory.mergeReports reports).screens.map ScreenDescriptor.identity) ∧
      (inventory.DistinctScreens → (inventory.mergeReports reports).DistinctScreens) ∧
      (inventory.mergeReports reports).Owned := by
  induction reports generalizing inventory with
  | nil => exact ⟨List.prefix_rfl, id, owned⟩
  | cons report rest induction =>
      have merged : Contained report.peer.deviceId inventory
          (mergeRemoteInventory inventory report.peer report.screens) :=
        owned.contained_mergeRemoteInventory
      obtain ⟨kept, distinct, ownedAfter⟩ := induction merged.owned
      exact ⟨merged.kept.trans kept, distinct ∘ merged.distinct, ownedAfter⟩

/-- Reports of peers describe the screens of their own devices only. -/
theorem mergeReports_confined (owned : inventory.Owned) (reports : List PeerReport) :
    inventory.Confined (inventory.mergeReports reports) reports := by
  have own : ∀ device, (inventory.mergeReports reports).screensOf device = _ :=
    fun _ => owned.screensOf_mergeReports_filter owned rfl reports
  obtain ⟨kept, distinct, ownedAfter⟩ := owned.mergeReports_kept reports
  refine ⟨own, fun device others => ?_, kept, distinct, ownedAfter⟩
  have none : reports.filter (fun report => report.peer.deviceId = device) = [] :=
    List.filter_eq_nil_iff.mpr fun report member => by simpa using others report member
  rw [own device, none]
  rfl

/-- A peer that reports a screen whose id reads like one of another device. -/
def disguisedReport : PeerReport where
  peer := { deviceId := ⟨List.replicate 32 2, List.length_replicate⟩, displayName := "peer" }
  screens :=
    { screens :=
        [{ stableId := "/01:01:01/1", name := "A", width := 1280, height := 720, primary := true }]
      accepted := ⟨by simp, by simp, by simp; decide, by simp, by simp⟩ }

/-- The device whose screen is imitated. -/
def imitatedDevice : DeviceId := ⟨List.replicate 32 1, List.length_replicate⟩

def imitatedInventory : ScreenInventory where
  screens :=
    [{ screenId := .ofDevice imitatedDevice.topologyId "1", deviceId := imitatedDevice.topologyId
       deviceName := "host", name := "A", logicalSize := { width := 1920, height := 1080 }
       primary := true, online := true, thisDevice := true }]

theorem mergeReports_confined_disguised :
    imitatedInventory.Owned ∧
      imitatedInventory.Confined (imitatedInventory.mergeReports [disguisedReport])
        [disguisedReport] := by
  have owned : imitatedInventory.Owned := by
    intro screen member
    obtain rfl := List.mem_singleton.mp member
    exact ⟨imitatedDevice, "1", rfl, rfl⟩
  exact ⟨owned, mergeReports_confined owned [disguisedReport]⟩

end ScreenInventory
end Reports
end Rflow
