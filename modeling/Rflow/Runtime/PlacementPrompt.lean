import Rflow.Core.Offers
import Rflow.Foundation.Traced
import Rflow.Runtime.Inventory
import Rflow.Store.StoreCalls

/-!
# Placing a new device from the terminal

The prompt shows the screens of a new device and the positions around the local screen, reads
choices until one stands, and turns it into a decision.  Whatever is typed, a decision is for a
position that was offered as free, so it commits while the stored state is the one that the offer
was made from.
-/

namespace Rflow

open Foundation

/-! ## Reading a choice -/

/-- What one `read_line` gives: a line, with its line break, or an error.  When nothing is left to
read the input has ended. -/
inductive PromptRead where
  | line (text : List Char)
  | failed (error : String)
  deriving DecidableEq

inductive PromptChoice where
  | done
  | invalid
  | value (choice : Nat)
  deriving DecidableEq

/-- `str::trim`. -/
def trim (text : List Char) : List Char :=
  ((text.dropWhile isWhiteSpace).reverse.dropWhile isWhiteSpace).reverse

/-- `str::parse::<usize>` on 64 bits: decimal digits after an optional plus sign. -/
def parseUsize (text : List Char) : Option Nat :=
  let digits := match text with
    | '+' :: rest => rest
    | text => text
  if digits ≠ [] ∧ digits.all Char.isDigit then
    let value := digits.foldl (fun value digit => value * 10 + (digit.toNat - '0'.toNat)) 0
    if value ≤ u64Max then some value else none
  else
    none

/-- What a line chooses; an empty read is the end of the input. -/
def promptChoice (text : List Char) : PromptChoice :=
  if text = [] then
    .done
  else
    match parseUsize (trim text) with
    | some choice => .value choice
    | none => .invalid

/-! ## The prompt -/

structure PlacementDecision where
  revision : Nat
  screenId : ScreenId
  anchorId : ScreenId
  position : RelativePosition
  deriving DecidableEq

def placementPositionName : RelativePosition → String
  | .leftOf => "Left"
  | .rightOf => "Right"
  | .above => "Above"
  | .below => "Below"

/-- Ask for one of the screens until the answer is one, or none is wanted. -/
def chooseScreen (count : Nat) : List PromptRead →
    Traced String String (Option Nat × List PromptRead)
  | [] => do
      Traced.tell ["Choose a screen [1-" ++ toString count ++ ", 0=later]: "]
      pure (none, [])
  | .failed error :: _ => do
      Traced.tell ["Choose a screen [1-" ++ toString count ++ ", 0=later]: "]
      Traced.fail error
  | .line text :: rest => do
      Traced.tell ["Choose a screen [1-" ++ toString count ++ ", 0=later]: "]
      match promptChoice text with
      | .done => pure (none, rest)
      | .invalid => do
          Traced.tell ["Invalid screen choice.\n"]
          chooseScreen count rest
      | .value choice =>
          if choice = 0 then
            pure (none, rest)
          else if choice ≤ count then
            pure (some (choice - 1), rest)
          else do
            Traced.tell ["Invalid screen choice.\n"]
            chooseScreen count rest

/-- Ask for one of the positions until the answer is a free one, or none is wanted. -/
def choosePosition (options : List PlacementOptionSummary) : List PromptRead →
    Traced String String (Option RelativePosition)
  | [] => do
      Traced.tell ["Choose a position [1-4, 0=later]: "]
      pure none
  | .failed error :: _ => do
      Traced.tell ["Choose a position [1-4, 0=later]: "]
      Traced.fail error
  | .line text :: rest => do
      Traced.tell ["Choose a position [1-4, 0=later]: "]
      match promptChoice text with
      | .done => pure none
      | .invalid => do
          Traced.tell ["Invalid position choice.\n"]
          choosePosition options rest
      | .value choice =>
          if choice = 0 then
            pure none
          else
            match options[choice - 1]? with
            | none => do
                Traced.tell ["Invalid position choice.\n"]
                choosePosition options rest
            | some option =>
                if option.occupiedBy ≠ [] then do
                  Traced.tell ["That position is unavailable.\n"]
                  choosePosition options rest
                else
                  pure (some option.position)

/-- One line for each item, numbered from one. -/
def numbered {α : Type} (items : List α) (text : α → String) : List String :=
  items.zipIdx.map fun item => "  " ++ toString (item.2 + 1) ++ ") " ++ text item.1 ++ "\n"

/-- How a position is shown, with the screens that are in its way. -/
def optionText (option : PlacementOptionSummary) : String :=
  if option.occupiedBy = [] then
    placementPositionName option.position
  else
    placementPositionName option.position ++ " [unavailable: occupied by " ++
      ", ".intercalate option.occupiedBy ++ "]"

/-- The screen to place, which is the only one or is asked for. -/
def promptScreen (request : PlacementRequestSummary) (reads : List PromptRead) :
    Traced String String (Option Nat × List PromptRead) :=
  if request.screens.length = 1 then
    pure (some 0, reads)
  else do
    Traced.tell (["\nScreens\n"] ++ numbered request.screens fun screen =>
      screen.name ++ " (" ++ screen.screenId.value ++ ")")
    chooseScreen request.screens.length reads

/-- Ask where to place a screen. -/
def promptPosition (request : PlacementRequestSummary) (screen : PlacementScreenSummary)
    (reads : List PromptRead) : Traced String String (Option PlacementDecision) := do
  Traced.tell (["\nPosition for " ++ screen.name ++ "\n"] ++ numbered screen.options optionText)
  let position ← choosePosition screen.options reads
  pure (position.map fun position =>
    { revision := request.revision
      screenId := screen.screenId
      anchorId := request.anchorScreen
      position })

def promptPeerPlacement (request : PlacementRequestSummary) (reads : List PromptRead) :
    Traced String String (Option PlacementDecision) := do
  Traced.tell ["\nPlace new device " ++ request.deviceName ++ " relative to " ++
    request.anchorName ++ "\n"]
  let chosen ← promptScreen request reads
  match chosen.1 with
  | none => pure none
  | some index =>
      match request.screens[index]? with
      | none => Traced.lift (.panic "index out of bounds")
      | some screen => promptPosition request screen chosen.2

example :
    (choosePosition
      [{ position := .leftOf, occupiedBy := [] }, { position := .rightOf, occupiedBy := ["a/b"] }]
      [.line " 2\n".toList, .line "+1 \n".toList]).outcome = .ok (some .leftOf) := by decide

/-! ## What is decided -/

section

variable {options : List PlacementOptionSummary} {reads : List PromptRead}
  {position : RelativePosition} {request : PlacementRequestSummary} {decision : PlacementDecision}

/-- A chosen position is one of the free ones. -/
theorem choosePosition_free
    (chosen : (choosePosition options reads).outcome = .ok (some position)) :
    ∃ option ∈ options, option.occupiedBy = [] ∧ option.position = position := by
  induction reads with
  | nil => simp [choosePosition] at chosen
  | cons read rest induction =>
      cases read with
      | failed error => simp [choosePosition] at chosen
      | line text =>
          simp only [choosePosition, Traced.bind_outcome, Traced.tell_outcome,
            Outcome.ok_bind] at chosen
          split at chosen
          · simp at chosen
          · exact induction (by simpa using chosen)
          · split_ifs at chosen
            · simp at chosen
            · split at chosen
              · exact induction (by simpa using chosen)
              · rename_i option listed
                split_ifs at chosen with occupied
                · exact induction (by simpa using chosen)
                · rw [Traced.pure_outcome] at chosen
                  exact ⟨option, List.mem_of_getElem? listed, not_not.mp occupied,
                    Option.some.inj (Outcome.ok.inj chosen)⟩

/-- A decision is for a screen of the request at a position that it shows as free. -/
theorem promptPeerPlacement_decides
    (decides : (promptPeerPlacement request reads).outcome = .ok (some decision)) :
    ∃ screen ∈ request.screens, ∃ option ∈ screen.options, option.occupiedBy = [] ∧
      decision =
        { revision := request.revision
          screenId := screen.screenId
          anchorId := request.anchorScreen
          position := option.position } := by
  rw [promptPeerPlacement, Traced.bind_outcome, Traced.tell_outcome, Outcome.ok_bind,
    Traced.bind_outcome, Outcome.bind_eq_ok] at decides
  obtain ⟨⟨index, left⟩, -, decides⟩ := decides
  cases index with
  | none => simp at decides
  | some index =>
      dsimp only at decides
      split at decides
      · simp at decides
      · rename_i screen listed
        simp only [promptPosition, Traced.bind_outcome, Traced.tell_outcome, Outcome.ok_bind,
          Outcome.bind_eq_ok, Traced.pure_outcome, Outcome.ok.injEq] at decides
        obtain ⟨chosen, chooses, decided⟩ := decides
        obtain ⟨position, rfl, rfl⟩ := Option.map_eq_some_iff.mp decided
        obtain ⟨option, member, free, rfl⟩ := choosePosition_free chooses
        exact ⟨screen, List.mem_of_getElem? listed, option, member, free, rfl⟩

end

/-! ## What is offered -/

section

variable {topology : ScreenTopology} {inventory : ScreenInventory} {anchor : ScreenId}
  {screens : List ScreenDescriptor} {summaries : List PlacementScreenSummary}
  {peer : PeerSummary} {newlyTrusted : Bool} {request : PlacementRequestSummary}

/-- The options of a screen are the offers of the topology. -/
theorem placementScreens_offers (listed : placementScreens topology anchor screens = .ok summaries)
    {summary : PlacementScreenSummary} (member : summary ∈ summaries) :
    ∃ availability, topology.placementAvailability anchor summary.screenId = .ok availability ∧
      ∀ option ∈ summary.options, ∃ offer ∈ availability, option.position = offer.position ∧
        (option.occupiedBy = [] ↔ offer.occupiedBy = []) := by
  induction screens generalizing summaries with
  | nil =>
      obtain rfl := Outcome.ok.inj listed
      cases member
  | cons screen rest induction =>
      simp only [placementScreens, Outcome.bind_eq_ok, Outcome.pure_eq, Outcome.ok.injEq] at listed
      obtain ⟨availability, available, others, remaining, rfl⟩ := listed
      obtain rfl | member := List.mem_cons.mp member
      · refine ⟨availability, available, fun option shown => ?_⟩
        obtain ⟨offer, offered, rfl⟩ := List.mem_map.mp shown
        exact ⟨offer, offered, rfl, List.map_eq_nil_iff⟩
      · exact induction remaining member

/-- A request is at the revision of the topology, and offers what the topology offers. -/
theorem placementRequest_offers
    (requested : placementRequest newlyTrusted peer inventory topology = .ok (some request))
    {summary : PlacementScreenSummary} (member : summary ∈ request.screens) :
    request.revision = topology.revision ∧
      ∃ availability,
        topology.placementAvailability request.anchorScreen summary.screenId = .ok availability ∧
        ∀ option ∈ summary.options, ∃ offer ∈ availability, option.position = offer.position ∧
          (option.occupiedBy = [] ↔ offer.occupiedBy = []) := by
  unfold placementRequest at requested
  split_ifs at requested
  · simp at requested
  · simp only [Outcome.bind_eq_ok] at requested
    obtain ⟨anchor, -, screens, listed, requested⟩ := requested
    split_ifs at requested
    · simp at requested
    · obtain rfl := Option.some.inj (Outcome.ok.inj requested)
      exact ⟨rfl, placementScreens_offers listed member⟩

end

/-! ## Committing a decision -/

/-- The command that a decision is committed with. -/
def PlacementDecision.command (decision : PlacementDecision) : LayoutCommand :=
  .place decision.screenId decision.anchorId decision.position false

namespace TopologyFiles

/-- Apply a command for the stored inventory. -/
def applyLayoutCommand (files : TopologyFiles) (expectedRevision : Nat) (command : LayoutCommand) :
    Outcome String (ScreenTopology × TopologyFiles) := do
  let state ← files.loadState
  files.apply expectedRevision state.inventory command

variable {files : TopologyFiles} {state : TopologyState} {command : LayoutCommand}

/-- What a successful call has checked and stored. -/
theorem apply_eq_ok {expectedRevision : Nat} {inventory : ScreenInventory}
    {topology : ScreenTopology} {written : TopologyFiles}
    (applied : files.apply expectedRevision inventory command = .ok (topology, written)) :
    ∃ state layout, files.loadState = .ok state ∧
      state.layout.apply inventory command = .ok layout ∧
      written = { inventory := .inventory inventory, layout := .current layout } := by
  simp only [apply, saveInventory, Outcome.bind_eq_ok, Outcome.mapErr_eq_ok, Outcome.pure_eq,
    Outcome.ok.injEq, Prod.mk.injEq] at applied
  obtain ⟨state, loaded, _, _, layout, edited, _, ⟨_, _, rfl⟩, _, _, _, rfl⟩ := applied
  exact ⟨state, layout, loaded, edited, rfl⟩

/-- A command at the stored revision commits when the stored layout accepts it. -/
theorem applyLayoutCommand_isOk (loaded : files.loadState = .ok state)
    (accepts : (state.layout.apply state.inventory command).IsOk) :
    (files.applyLayoutCommand state.layout.revision command).IsOk := by
  obtain ⟨layout, applied⟩ := accepts
  have computes : (StoreCall.apply state.layout.revision state.inventory command).Computes
      state.layout state.inventory layout := .apply applied
  have wellFormed := computes.wellFormed
  refine ⟨({ revision := layout.revision
             screens := state.inventory.screens.map layout.resolveScreen
             links := layout.links },
    { inventory := .inventory state.inventory, layout := .current layout }), ?_⟩
  simp only [applyLayoutCommand, apply, saveInventory, loaded, Outcome.ok_bind,
    Outcome.bind_eq_ok, Outcome.mapErr_eq_ok, Outcome.pure_eq, Outcome.ok.injEq, Prod.mk.injEq]
  exact ⟨⟨⟩, Outcome.require_eq_ok.mpr trivial, layout, applied, _,
    ⟨⟨⟩, ScreenInventory.validate_eq_ok.mpr wellFormed.ids, rfl⟩, _,
    ScreenLayout.resolve_eq_ok.mpr ⟨wellFormed, rfl⟩, rfl, rfl⟩

/-! ## Stored states that come later -/

/-- Files that calls on the store have led to. -/
inductive Evolves (start : TopologyFiles) : TopologyFiles → Prop
  | start : Evolves start start
  | applied {files written : TopologyFiles} {expectedRevision : Nat} {inventory : ScreenInventory}
      {command : LayoutCommand} {topology : ScreenTopology} (earlier : Evolves start files)
      (applied : files.apply expectedRevision inventory command = .ok (topology, written)) :
      Evolves start written
  | replaced {files written : TopologyFiles} {expectedRevision : Nat}
      {topology replacement : ScreenTopology} (earlier : Evolves start files)
      (replaced : files.replace expectedRevision topology = .ok (replacement, written)) :
      Evolves start written
  | saved {files written : TopologyFiles} {inventory : ScreenInventory}
      (earlier : Evolves start files) (saved : files.saveInventory inventory = .ok written) :
      Evolves start written

/-- Whatever calls the store has had, its layout file is the old one or has a later revision. -/
theorem Evolves.layout {start : TopologyFiles} (evolves : start.Evolves files)
    {layout : ScreenLayout} (held : start.layout.Holds layout) (below : layout.revision < u64Max) :
    files.layout = start.layout ∨
      ∃ later, files.layout = .current later ∧ layout.revision < later.revision := by
  have rises {revision : Nat} (onward : layout.revision ≤ revision) :
      layout.revision < saturatingSucc revision := by
    unfold saturatingSucc
    omega
  have onward {files : TopologyFiles} {state : TopologyState} (loaded : files.loadState = .ok state)
      (before : files.layout = start.layout ∨
        ∃ later, files.layout = .current later ∧ layout.revision < later.revision) :
      layout.revision ≤ state.layout.revision := by
    have holds := (loadState_eq_ok.mp loaded).holds
    obtain same | ⟨later, stored, after⟩ := before
    · rw [held.unique (same ▸ holds)]
    · rw [stored] at holds
      rw [holds.unique (.stored later)]
      exact after.le
  induction evolves with
  | start => exact Or.inl rfl
  | applied earlier applied induction =>
      obtain ⟨state, next, loaded, edited, rfl⟩ := apply_eq_ok applied
      obtain ⟨_, _, _, _, rfl⟩ := ScreenLayout.apply_eq_ok.mp edited
      exact Or.inr ⟨_, rfl, rises (onward loaded induction)⟩
  | replaced earlier replaced induction =>
      simp only [replace, saveInventory, Outcome.bind_eq_ok, Outcome.mapErr_eq_ok,
        Outcome.pure_eq, Outcome.ok.injEq, Prod.mk.injEq] at replaced
      obtain ⟨_, _, state, loaded, _, _, _, _, _, ⟨_, _, rfl⟩, _, rfl⟩ := replaced
      exact Or.inr ⟨_, rfl, rises (onward loaded induction)⟩
  | saved earlier saved induction =>
      obtain ⟨_, rfl⟩ := saveInventory_eq_ok.mp saved
      exact induction

/-- While the revision is the old one, so is the layout. -/
theorem Evolves.unchanged {start : TopologyFiles} (evolves : start.Evolves files)
    {old : TopologyState} (loadedOld : start.loadState = .ok old)
    (loaded : files.loadState = .ok state)
    (below : old.layout.revision < u64Max) (same : state.layout.revision = old.layout.revision) :
    state.layout = old.layout := by
  have held := (loadState_eq_ok.mp loadedOld).holds
  have holds := (loadState_eq_ok.mp loaded).holds
  obtain unchanged | ⟨later, stored, after⟩ := evolves.layout held below
  · exact (unchanged ▸ holds).unique held
  · rw [stored] at holds
    rw [holds.unique (.stored later)] at same
    omega

end TopologyFiles

namespace ScreenLayout

variable {layout : ScreenLayout} {inventory : ScreenInventory} {topology : ScreenTopology}
  {newlyTrusted : Bool} {peer : PeerSummary} {request : PlacementRequestSummary}
  {reads : List PromptRead} {decision : PlacementDecision}

/-- A decision is at the revision of the layout that the request was made from, and that layout
accepts it. -/
theorem decision_accepted (resolved : layout.resolve inventory = .ok topology)
    (requested : placementRequest newlyTrusted peer inventory topology = .ok (some request))
    (decides : (promptPeerPlacement request reads).outcome = .ok (some decision)) :
    decision.revision = layout.revision ∧
      (layout.apply inventory decision.command).IsOk := by
  obtain ⟨summary, listed, option, shown, free, rfl⟩ := promptPeerPlacement_decides decides
  obtain ⟨revision, availability, available, offers⟩ := placementRequest_offers requested listed
  obtain ⟨offer, offered, shownAt, free_iff⟩ := offers option shown
  obtain ⟨different, anchorFound, screenFound, rfl⟩ :=
    ScreenTopology.placementAvailability_eq_ok.mp available
  obtain ⟨position, -, rfl⟩ := List.mem_map.mp offered
  have accepts := (offer_free_iff resolved ((isSome_find_of_resolve resolved).mp anchorFound)
    ((isSome_find_of_resolve resolved).mp screenFound) different position).mp (free_iff.mp free)
  obtain ⟨-, rfl⟩ := resolve_eq_ok.mp resolved
  refine ⟨revision, ?_⟩
  rw [PlacementDecision.command, shownAt]
  exact accepts

/-- Offered positions can be committed: between two different known screens a position is shown as
free exactly when the placement there is accepted, and whatever is read at the prompt, a decision
commits on every store that still has the revision and the inventory that its request was made
from.  After other calls that is the same layout, unless revisions had come to their maximum. -/
theorem offered_positions_commit (resolved : layout.resolve inventory = .ok topology) :
    (∀ anchorId screenId, inventory.contains anchorId = true →
      inventory.contains screenId = true → anchorId ≠ screenId →
      ∃ availability, topology.placementAvailability anchorId screenId = .ok availability ∧
        availability.map PlacementAvailability.position = [.leftOf, .rightOf, .above, .below] ∧
        ∀ offer ∈ availability, offer.occupiedBy = [] ↔
          (layout.apply inventory (.place screenId anchorId offer.position false)).IsOk) ∧
    ∀ newlyTrusted peer request reads decision (files : TopologyFiles) state,
      placementRequest newlyTrusted peer inventory topology = .ok (some request) →
      (promptPeerPlacement request reads).outcome = .ok (some decision) →
      files.loadState = .ok state → state.inventory = inventory →
      (state.layout = layout ∨
        ∃ start : TopologyFiles, start.loadState = .ok { layout, inventory } ∧
          start.Evolves files ∧ state.layout.revision = layout.revision ∧
          layout.revision < u64Max) →
      (files.applyLayoutCommand decision.revision decision.command).IsOk := by
  refine ⟨fun anchorId screenId => offers_exact resolved, ?_⟩
  rintro newlyTrusted peer request reads decision files state requested decides loaded rfl kept
  obtain ⟨revision, accepts⟩ := decision_accepted resolved requested decides
  have same : state.layout = layout := by
    obtain same | ⟨start, loadedStart, evolves, unchanged, below⟩ := kept
    · exact same
    · exact evolves.unchanged loadedStart loaded below unchanged
  subst same
  rw [revision]
  exact TopologyFiles.applyLayoutCommand_isOk loaded accepts

end ScreenLayout

/-- A device that has just been paired. -/
def sampleNewPeer : PeerSummary where
  deviceId := ⟨List.replicate 32 7, List.length_replicate⟩
  displayName := "laptop"

/-- The local screen and the one screen of the new device. -/
def sampleArrival : ScreenInventory where
  screens := [sampleDescriptor "local" "host" true,
    { sampleDescriptor "laptop/main" "laptop" false with
      deviceId := sampleNewPeer.deviceId.topologyId }]

/-- The store of a host that has placed nothing yet. -/
def sampleUnplaced : TopologyFiles where
  inventory := .inventory sampleArrival
  layout := .absent

/-- What the host asks about the new device. -/
def sampleRequest : PlacementRequestSummary where
  deviceName := "laptop"
  revision := 0
  anchorScreen := ⟨"local"⟩
  anchorName := "host/local"
  screens := [{ screenId := ⟨"laptop/main"⟩
                name := "laptop/main"
                options := [⟨.leftOf, []⟩, ⟨.rightOf, []⟩, ⟨.above, []⟩, ⟨.below, []⟩] }]

namespace ScreenLayout

theorem offered_positions_commit_right :
    ∃ topology decision,
      (default : ScreenLayout).resolve sampleArrival = .ok topology ∧
        placementRequest true sampleNewPeer sampleArrival topology = .ok (some sampleRequest) ∧
        (promptPeerPlacement sampleRequest
          [.line "right\n".toList, .line " 2 \n".toList]).outcome = .ok (some decision) ∧
        decision.position = .rightOf ∧
        (sampleUnplaced.applyLayoutCommand decision.revision decision.command).IsOk := by
  obtain ⟨topology, resolved⟩ : ∃ topology,
      (default : ScreenLayout).resolve sampleArrival = .ok topology := ⟨_, rfl⟩
  obtain ⟨-, commits⟩ := offered_positions_commit resolved
  obtain ⟨-, rfl⟩ := resolve_eq_ok.mp resolved
  have requested : placementRequest true sampleNewPeer sampleArrival
      { revision := 0
        screens := sampleArrival.screens.map (default : ScreenLayout).resolveScreen
        links := [] } = .ok (some sampleRequest) := by
    decide +kernel
  have decides : (promptPeerPlacement sampleRequest
      [.line "right\n".toList, .line " 2 \n".toList]).outcome =
        .ok (some { revision := 0, screenId := ⟨"laptop/main"⟩, anchorId := ⟨"local"⟩
                    position := .rightOf }) := by
    decide +kernel
  have loaded : sampleUnplaced.loadState =
      .ok { layout := default, inventory := sampleArrival } := rfl
  exact ⟨_, _, resolved, requested, decides, rfl,
    commits true sampleNewPeer _ _ _ sampleUnplaced _ requested decides loaded rfl (Or.inl rfl)⟩

end ScreenLayout

end Rflow
