import Rflow.Core.Layout

/-!
# Validators and layout commands

The two validators of the source, what each of them accepts, and the commands that edit a layout.
-/

namespace Rflow

open Foundation

/-! ## Inventories -/

namespace ScreenInventory

/-- Accept an inventory with distinct, visible screen ids. -/
def validate (inventory : ScreenInventory) : Outcome LayoutError Unit :=
  checkScreenIds (.invalid "screen ID cannot be empty")
    (fun id => .invalid ("duplicate screen ID " ++ id.value)) []
    (inventory.screens.map ScreenDescriptor.screenId)

def contains (inventory : ScreenInventory) (id : ScreenId) : Bool :=
  inventory.screens.any fun screen => screen.screenId = id

theorem contains_iff {inventory : ScreenInventory} {id : ScreenId} :
    inventory.contains id = true ↔ id ∈ inventory.screens.map ScreenDescriptor.screenId := by
  simp [contains]

theorem validate_eq_ok {inventory : ScreenInventory} :
    inventory.validate = .ok () ↔
      DistinctIds (inventory.screens.map ScreenDescriptor.screenId) := by
  simp [validate, checkScreenIds_eq_ok]

end ScreenInventory

/-! ## Topologies -/

namespace ScreenTopology

/-- The first screen with an id. -/
def find (topology : ScreenTopology) (id : ScreenId) : Option ScreenNode :=
  topology.screens.find? fun screen => screen.screenId = id

/-- Walk over the links in the order of the source: equal edges, unknown screens, edges already in
use, edges that do not face each other. -/
def checkLinks (ids : List ScreenId) (occupied : List ScreenEdge) :
    List ScreenLink → Outcome String Unit
  | [] => .ok ()
  | link :: rest =>
      if link.fromEdge = link.toEdge then
        .err "a screen edge cannot link to itself"
      else if link.fromEdge.screenId ∉ ids ∨ link.toEdge.screenId ∉ ids then
        .err "screen link references an unknown screen"
      else if link.fromEdge ∈ occupied ∨ link.toEdge ∈ link.fromEdge :: occupied then
        .err "a screen edge can participate in only one link"
      else if link.Facing then
        checkLinks ids (link.toEdge :: link.fromEdge :: occupied) rest
      else
        .err "linked screen edges must face each other"

def validate (topology : ScreenTopology) : Outcome String Unit := do
  let ids := topology.screens.map ScreenNode.screenId
  checkScreenIds "screen ID cannot be empty" (fun id => "duplicate screen ID " ++ id.value) [] ids
  checkLinks ids [] topology.links

/-- What a topology accepted by `validate` satisfies. -/
structure WellFormed (topology : ScreenTopology) : Prop where
  ids : DistinctIds (topology.screens.map ScreenNode.screenId)
  links : LinksWellFormed (· ∈ topology.screens.map ScreenNode.screenId) topology.links

theorem checkLinks_eq_ok {ids : List ScreenId} {occupied : List ScreenEdge}
    {links : List ScreenLink} :
    checkLinks ids occupied links = .ok () ↔
      LinksWellFormed (· ∈ ids) links ∧
        ∀ edge ∈ links.flatMap ScreenLink.endpoints, edge ∉ occupied := by
  induction links generalizing occupied with
  | nil => simp [checkLinks, linksWellFormed_nil]
  | cons link rest induction =>
      rw [linksWellFormed_cons]
      simp only [checkLinks]
      split_ifs with sameEdge unknown inUse facing
      · simp only [false_iff]
        rintro ⟨⟨_, facing, _⟩, _⟩
        exact facing.edges_ne sameEdge
      · simp only [false_iff]
        rintro ⟨⟨known, _⟩, _⟩
        rcases unknown with unknown | unknown
        · exact unknown known.1
        · exact unknown known.2
      · simp only [false_iff]
        rintro ⟨⟨_, facing, _⟩, free⟩
        have freeFrom := free link.fromEdge (by simp [ScreenLink.endpoints])
        have freeTo := free link.toEdge (by simp [ScreenLink.endpoints])
        rcases inUse with inUse | inUse
        · exact freeFrom inUse
        · rcases List.mem_cons.mp inUse with same | inUse
          · exact facing.edges_ne same.symm
          · exact freeTo inUse
      · rw [induction]
        simp only [not_or, List.mem_cons, not_not] at unknown inUse
        simp only [List.flatMap_cons, ScreenLink.endpoints, List.cons_append, List.nil_append,
          List.mem_cons, not_or, forall_eq_or_imp]
        constructor
        · rintro ⟨rest_ok, free⟩
          refine ⟨⟨unknown, facing, ⟨fun used => ?_, fun used => ?_⟩, rest_ok⟩,
            inUse.1, inUse.2.2, fun edge member => (free edge member).2.2⟩
          · exact (free link.fromEdge used).2.1 rfl
          · exact (free link.toEdge used).1 rfl
        · rintro ⟨⟨_, _, fresh, rest_ok⟩, _, _, free⟩
          refine ⟨rest_ok, fun edge member => ⟨?_, ?_, free edge member⟩⟩
          · rintro rfl
            exact fresh.2 member
          · rintro rfl
            exact fresh.1 member
      · simp only [false_iff]
        rintro ⟨⟨_, isFacing, _⟩, _⟩
        exact facing isFacing

theorem validate_eq_ok {topology : ScreenTopology} :
    topology.validate = .ok () ↔ topology.WellFormed := by
  simp only [validate, Outcome.check_bind_eq_ok, checkScreenIds_eq_ok, checkLinks_eq_ok]
  constructor
  · rintro ⟨⟨ids, _⟩, links, _⟩
    exact ⟨ids, links⟩
  · rintro ⟨ids, links⟩
    exact ⟨⟨ids, by simp⟩, links, by simp⟩

theorem find_screenId {topology : ScreenTopology} {id : ScreenId} {node : ScreenNode}
    (found : topology.find id = some node) : node.screenId = id := by
  simpa using List.find?_some found

theorem find_mem {topology : ScreenTopology} {id : ScreenId} {node : ScreenNode}
    (found : topology.find id = some node) : node ∈ topology.screens :=
  List.mem_of_find?_eq_some found

theorem find_isSome_iff {topology : ScreenTopology} {id : ScreenId} :
    (topology.find id).isSome ↔ id ∈ topology.screens.map ScreenNode.screenId := by
  simp [find]

/-- With distinct ids, looking a screen up by its own id finds that screen. -/
theorem WellFormed.find_of_mem {topology : ScreenTopology} (wellFormed : topology.WellFormed)
    {node : ScreenNode} (member : node ∈ topology.screens) :
    topology.find node.screenId = some node := by
  obtain ⟨found, lookup⟩ := Option.isSome_iff_exists.mp
    (find_isSome_iff.mpr (List.mem_map_of_mem member : node.screenId ∈ _))
  rw [lookup]
  exact congrArg some
    (List.inj_on_of_nodup_map wellFormed.ids.distinct (find_mem lookup) member
      (find_screenId lookup))

end ScreenTopology

/-! ## Layouts -/

namespace ScreenLayout

/-- The layout part of a topology: links and overrides, at the topology's revision. -/
def fromTopology (topology : ScreenTopology) : ScreenLayout where
  schemaVersion := layoutSchemaVersion
  revision := topology.revision
  links := topology.links
  sizeOverrides := topology.screens.filterMap fun screen =>
    screen.sizeOverride.map fun size => { screenId := screen.screenId, size }

/-- Check one link endpoint and mark its edge as occupied. -/
def checkEndpoint (inventory : ScreenInventory) (occupied : List ScreenEdge)
    (endpoint : ScreenEdge) : Outcome LayoutError (List ScreenEdge) :=
  if inventory.contains endpoint.screenId = false then
    .err (.unknownScreen endpoint.screenId)
  else if endpoint ∈ occupied then
    .err (.edgeOccupied endpoint)
  else
    .ok (endpoint :: occupied)

def checkLinks (inventory : ScreenInventory) (occupied : List ScreenEdge) :
    List ScreenLink → Outcome LayoutError Unit
  | [] => .ok ()
  | link :: rest => do
      let occupied ← checkEndpoint inventory occupied link.fromEdge
      let occupied ← checkEndpoint inventory occupied link.toEdge
      if link.fromEdge = link.toEdge ∨ ¬ link.Facing then
        .err (.invalid "linked screen edges must be distinct and face each other")
      else
        checkLinks inventory occupied rest

def checkOverrides (inventory : ScreenInventory) (overridden : List ScreenId) :
    List ScreenSizeOverride → Outcome LayoutError Unit
  | [] => .ok ()
  | value :: rest =>
      if inventory.contains value.screenId = false then
        .err (.unknownScreen value.screenId)
      else if value.screenId ∈ overridden then
        .err (.invalid ("duplicate size override for " ++ value.screenId.value))
      else
        checkOverrides inventory (value.screenId :: overridden) rest

def validate (layout : ScreenLayout) (inventory : ScreenInventory) : Outcome LayoutError Unit := do
  Outcome.require (layout.schemaVersion = layoutSchemaVersion)
    (.invalid ("unsupported layout schema version " ++ toString layout.schemaVersion))
  inventory.validate
  checkLinks inventory [] layout.links
  checkOverrides inventory [] layout.sizeOverrides

/-- Join two edges, refusing occupied ones unless `replace` is set. -/
def link (layout : ScreenLayout) (inventory : ScreenInventory) (fromEdge toEdge : ScreenEdge)
    (replace : Bool) : Outcome LayoutError ScreenLayout :=
  let occupied (link : ScreenLink) : Bool :=
    link.fromEdge = fromEdge || link.toEdge = fromEdge || link.fromEdge = toEdge ||
      link.toEdge = toEdge
  if inventory.contains fromEdge.screenId = false then
    .err (.unknownScreen fromEdge.screenId)
  else if inventory.contains toEdge.screenId = false then
    .err (.unknownScreen toEdge.screenId)
  else if fromEdge.screenId = toEdge.screenId then
    .err (.invalid "a screen cannot be linked to itself")
  else if fromEdge.edge.opposite ≠ toEdge.edge then
    .err (.invalid "linked screen edges must face each other")
  else
    match if replace then none else layout.links.find? occupied with
    | some link =>
        .err (.edgeOccupied
          (if link.fromEdge = fromEdge ∨ link.toEdge = fromEdge then fromEdge else toEdge))
    | none =>
        .ok { layout with
          links := layout.links.filter (fun link => !occupied link) ++ [{ fromEdge, toEdge }] }

/-- Carry out one command on a validated layout and validate the result at the next revision. -/
def apply (layout : ScreenLayout) (inventory : ScreenInventory) (command : LayoutCommand) :
    Outcome LayoutError ScreenLayout := do
  layout.validate inventory
  let next ← match command with
    | .place screenId anchorId position replace =>
        let (anchorEdge, screenEdge) := placementEdges position
        layout.link inventory { screenId := anchorId, edge := anchorEdge }
          { screenId, edge := screenEdge } replace
    | .link fromEdge toEdge replace => layout.link inventory fromEdge toEdge replace
    | .unlink edge =>
        if inventory.contains edge.screenId = false then
          .err (.unknownScreen edge.screenId)
        else
          .ok { layout with
            links := layout.links.filter fun link => link.fromEdge ≠ edge ∧ link.toEdge ≠ edge }
    | .unplace screenId =>
        if inventory.contains screenId = false then
          .err (.unknownScreen screenId)
        else
          .ok { layout with links := layout.links.filter fun link => !link.touches screenId }
    | .setSizeOverride screenId size =>
        if inventory.contains screenId = false then
          .err (.unknownScreen screenId)
        else
          let others := layout.sizeOverrides.filter fun entry => entry.screenId ≠ screenId
          .ok { layout with
            sizeOverrides := others ++ (size.map fun size => { screenId, size }).toList }
    | .replace layout => .ok layout
  let next := { next with revision := saturatingSucc layout.revision }
  next.validate inventory
  pure next

/-- The routing view of one inventory entry. -/
def resolveScreen (layout : ScreenLayout) (screen : ScreenDescriptor) : ScreenNode where
  screenId := screen.screenId
  deviceId := screen.deviceId
  deviceName := screen.deviceName
  name := screen.name
  logicalSize := screen.logicalSize
  sizeOverride :=
    (layout.sizeOverrides.find? fun value => value.screenId = screen.screenId).map (·.size)
  online := screen.online
  thisDevice := screen.thisDevice

/-- Combine a layout with the reported screens. -/
def resolve (layout : ScreenLayout) (inventory : ScreenInventory) :
    Outcome LayoutError ScreenTopology := do
  layout.validate inventory
  pure
    { revision := layout.revision
      screens := inventory.screens.map layout.resolveScreen
      links := layout.links }

/-- What a layout accepted for an inventory satisfies. -/
structure WellFormed (layout : ScreenLayout) (inventory : ScreenInventory) : Prop where
  schema : layout.schemaVersion = layoutSchemaVersion
  ids : DistinctIds (inventory.screens.map ScreenDescriptor.screenId)
  links : LinksWellFormed (· ∈ inventory.screens.map ScreenDescriptor.screenId) layout.links
  overridesKnown : ∀ value ∈ layout.sizeOverrides,
    value.screenId ∈ inventory.screens.map ScreenDescriptor.screenId
  overridesDistinct : (layout.sizeOverrides.map ScreenSizeOverride.screenId).Nodup

theorem checkEndpoint_eq_ok {inventory : ScreenInventory} {occupied result : List ScreenEdge}
    {endpoint : ScreenEdge} :
    checkEndpoint inventory occupied endpoint = .ok result ↔
      (endpoint.screenId ∈ inventory.screens.map ScreenDescriptor.screenId ∧
        endpoint ∉ occupied) ∧ result = endpoint :: occupied := by
  rw [← ScreenInventory.contains_iff]
  unfold checkEndpoint
  split_ifs with unknown used
  · simp [unknown]
  · simp [used]
  · simp only [Bool.not_eq_false] at unknown
    simp only [unknown, used, not_false_iff, and_self, true_and, Outcome.ok.injEq]
    exact eq_comm

theorem checkLinks_eq_ok {inventory : ScreenInventory} {occupied : List ScreenEdge}
    {links : List ScreenLink} :
    checkLinks inventory occupied links = .ok () ↔
      LinksWellFormed (· ∈ inventory.screens.map ScreenDescriptor.screenId) links ∧
        ∀ edge ∈ links.flatMap ScreenLink.endpoints, edge ∉ occupied := by
  induction links generalizing occupied with
  | nil => simp [checkLinks, linksWellFormed_nil]
  | cons link rest induction =>
      rw [linksWellFormed_cons]
      simp only [checkLinks, Outcome.bind_eq_ok, checkEndpoint_eq_ok]
      simp only [List.flatMap_cons, ScreenLink.endpoints, List.cons_append, List.nil_append,
        List.mem_cons, forall_eq_or_imp]
      constructor
      · rintro ⟨_, ⟨⟨fromKnown, fromFree⟩, rfl⟩, _, ⟨⟨toKnown, toFree⟩, rfl⟩, remaining⟩
        split_ifs at remaining with misplaced
        obtain ⟨_, facing⟩ := not_or.mp misplaced
        obtain ⟨rest_ok, free⟩ := induction.mp remaining
        refine ⟨⟨⟨fromKnown, toKnown⟩, not_not.mp facing,
          ⟨fun used => ?_, fun used => ?_⟩, rest_ok⟩,
          fromFree, fun old => toFree (List.mem_cons_of_mem _ old), fun edge member => ?_⟩
        · exact free _ used (by simp)
        · exact free _ used (by simp)
        · exact fun old => free edge member (by simp [old])
      · rintro ⟨⟨⟨fromKnown, toKnown⟩, facing, fresh, rest_ok⟩, fromFree, toFree, free⟩
        refine ⟨_, ⟨⟨fromKnown, fromFree⟩, rfl⟩, _, ⟨⟨toKnown, ?_⟩, rfl⟩, ?_⟩
        · intro old
          rcases List.mem_cons.mp old with same | old
          · exact facing.edges_ne same.symm
          · exact toFree old
        · rw [if_neg (not_or.mpr ⟨facing.edges_ne, not_not.mpr facing⟩)]
          refine induction.mpr ⟨rest_ok, fun edge member old => ?_⟩
          rcases List.mem_cons.mp old with rfl | old
          · exact fresh.2 member
          · rcases List.mem_cons.mp old with rfl | old
            · exact fresh.1 member
            · exact free edge member old

theorem checkOverrides_eq_ok {inventory : ScreenInventory} {overridden : List ScreenId}
    {values : List ScreenSizeOverride} :
    checkOverrides inventory overridden values = .ok () ↔
      (∀ value ∈ values, value.screenId ∈ inventory.screens.map ScreenDescriptor.screenId) ∧
        (values.map ScreenSizeOverride.screenId).Nodup ∧
        ∀ value ∈ values, value.screenId ∉ overridden := by
  induction values generalizing overridden with
  | nil => simp [checkOverrides]
  | cons value rest induction =>
      simp only [checkOverrides]
      rw [List.forall_mem_cons, List.forall_mem_cons, List.map_cons, List.nodup_cons,
        ← ScreenInventory.contains_iff]
      split_ifs with unknown again
      · simp [unknown]
      · simp [again]
      · rw [induction]
        simp only [Bool.not_eq_false] at unknown
        simp only [List.mem_cons, not_or, List.mem_map, not_exists, not_and]
        constructor
        · rintro ⟨known, distinct, free⟩
          exact ⟨⟨unknown, known⟩, ⟨fun other member => (free other member).1, distinct⟩, again,
            fun other member => (free other member).2⟩
        · rintro ⟨⟨_, known⟩, ⟨fresh, distinct⟩, _, free⟩
          exact ⟨known, distinct, fun other member => ⟨fresh other member, free other member⟩⟩

theorem validate_eq_ok {layout : ScreenLayout} {inventory : ScreenInventory} :
    layout.validate inventory = .ok () ↔ layout.WellFormed inventory := by
  simp only [validate, Outcome.check_bind_eq_ok, Outcome.require_eq_ok,
    ScreenInventory.validate_eq_ok, checkLinks_eq_ok, checkOverrides_eq_ok]
  constructor
  · rintro ⟨schema, ids, ⟨links, _⟩, known, distinct, _⟩
    exact ⟨schema, ids, links, known, distinct⟩
  · rintro ⟨schema, ids, links, known, distinct⟩
    exact ⟨schema, ids, ⟨links, by simp⟩, known, distinct, by simp⟩

theorem resolve_eq_ok {layout : ScreenLayout} {inventory : ScreenInventory}
    {topology : ScreenTopology} :
    layout.resolve inventory = .ok topology ↔
      layout.WellFormed inventory ∧
        topology =
          { revision := layout.revision
            screens := inventory.screens.map layout.resolveScreen
            links := layout.links } := by
  simp only [resolve, Outcome.check_bind_eq_ok, validate_eq_ok, Outcome.pure_eq,
    Outcome.ok.injEq]
  exact and_congr_right fun _ => eq_comm

theorem map_resolveScreen_screenId (layout : ScreenLayout) (screens : List ScreenDescriptor) :
    (screens.map layout.resolveScreen).map ScreenNode.screenId =
      screens.map ScreenDescriptor.screenId := by
  rw [List.map_map]
  rfl

/-- A resolved topology passes the topology validator. -/
theorem WellFormed.resolved {layout : ScreenLayout} {inventory : ScreenInventory}
    {topology : ScreenTopology} (resolved : layout.resolve inventory = .ok topology) :
    topology.WellFormed := by
  obtain ⟨wellFormed, rfl⟩ := resolve_eq_ok.mp resolved
  refine ⟨?_, ?_⟩
  · rw [map_resolveScreen_screenId]
    exact wellFormed.ids
  · rw [map_resolveScreen_screenId]
    exact wellFormed.links

end ScreenLayout

end Rflow
