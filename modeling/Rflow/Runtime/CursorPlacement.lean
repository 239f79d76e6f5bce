import Rflow.Core.Ownership
import Rflow.Core.SwitchDelay
import Rflow.Runtime.Client
import Rflow.Runtime.HostSteps

/-!
# Placing the cursor on the screen of a device

A screen is entered at coordinates of its own, and the message that enters it carries these
coordinates and no screen.  The receiving device takes them for a position on its whole desktop,
which is right only for a device with a single screen at the origin.
-/

namespace Rflow

open Foundation

/-- A screen of a device, with its size in the topology and its origin on the desktop of the
device. -/
structure DesktopScreen where
  screenId : ScreenId
  size : ScreenSize
  x : Int
  y : Int
  positive : size.Positive
  fits : size.Fits

/-- A position on the desktop lies on the screen. -/
structure DesktopScreen.Covers (screen : DesktopScreen) (globalX globalY : Int) : Prop where
  horizontal : screen.x ≤ globalX ∧ globalX < screen.x + screen.size.width
  vertical : screen.y ≤ globalY ∧ globalY < screen.y + screen.size.height

/-- The screens of one device. -/
structure Desktop where
  device : TopologyDeviceId
  screens : List DesktopScreen
  distinct : DistinctIds (screens.map DesktopScreen.screenId)

/-- The topology lists the screens of a desktop under its device and with their sizes. -/
def ScreenTopology.Shows (topology : ScreenTopology) (desktop : Desktop) : Prop :=
  ∀ screen ∈ desktop.screens, ∃ node, topology.find screen.screenId = some node ∧
    node.deviceId = desktop.device ∧ node.effectiveSize = screen.size

/-- The screen on which an effect places the cursor, and the coordinates on it. -/
def SessionEffect.placement (localScreen : ScreenId) : SessionEffect → Option (ScreenId × Int × Int)
  | .setLocalCursor x y => some (localScreen, x, y)
  | .enterScreen screenId x y => some (screenId, x, y)
  | _ => none

/-- A host session emits an effect in some run that leaves it with the topology. -/
inductive Emits (topology : ScreenTopology) (localScreen : ScreenId) (effect : SessionEffect) :
    Prop where
  | after {initial : ScreenTopology} {x y : Int} {session reached next : DesktopSession}
      {inputs : List HostInput} {input : HostInput} {earlier emitted : List SessionEffect}
      {router : TopologyRouter}
      (built : DesktopSession.hostTopology initial localScreen x y = .ok session)
      (ran : Machine.run DesktopSession.feed session inputs = .ok (earlier, reached))
      (fed : reached.feed input = .ok (emitted, next))
      (routes : next.router = some (.topology router localScreen))
      (current : router.topology = topology)
      (member : effect ∈ emitted)

/-- Carrying an effect out passes a position to `set_cursor_position`, on the host or on the client
that reads the frame. -/
inductive Delivers (topology : ScreenTopology) (effect : SessionEffect) (globalX globalY : Int) :
    Prop where
  | onHost {closed : Finset Nat} {injectorReady : Bool} {sources : LocalInputSources}
      {peers later : Peers} {outputs : List HostOutput}
      (executed : executeHostEffect closed topology injectorReady sources peers effect =
        .ok (outputs, later))
      (placed : .setCursorPosition globalX globalY ∈ outputs)
  | onClient {closed : Finset Nat} {injectorReady : Bool} {sources : LocalInputSources}
      {peers later : Peers} {outputs : List HostOutput} {device : TopologyDeviceId}
      {frame : ReliableEvent} {client next : ClientState} {serverPeer : PeerSummary}
      {clientOutputs : List ClientOutput}
      (executed : executeHostEffect closed topology injectorReady sources peers effect =
        .ok (outputs, later))
      (written : .write device frame ∈ outputs)
      (handled : client.handleReliable serverPeer frame = .ok (clientOutputs, next))
      (placed : .setCursorPosition globalX globalY ∈ clientOutputs)

/-- Whenever a host session places the cursor inside a screen of the desktop, the position that the
device gets lies on that screen. -/
def PlacesRight (desktop : Desktop) : Prop :=
  ∀ ⦃topology : ScreenTopology⦄ ⦃localScreen : ScreenId⦄ ⦃effect : SessionEffect⦄,
    topology.Shows desktop → Emits topology localScreen effect →
      ∀ screen ∈ desktop.screens, ∀ x y,
        effect.placement localScreen = some (screen.screenId, x, y) → screen.size.Contains x y →
          ∀ globalX globalY, Delivers topology effect globalX globalY →
              screen.Covers globalX globalY

/-- Entering two screens of the desktop at the same coordinates writes different frames. -/
def TellsApart (desktop : Desktop) : Prop :=
  ∀ ⦃topology : ScreenTopology⦄ ⦃closed : Finset Nat⦄ ⦃injectorReady : Bool⦄
    ⦃sources : LocalInputSources⦄ ⦃peers : Peers⦄, topology.Shows desktop →
      ∀ one ∈ desktop.screens, ∀ other ∈ desktop.screens, one ≠ other →
        ∀ x y, one.size.Contains x y → other.size.Contains x y →
          ∀ first second,
            executeHostEffect closed topology injectorReady sources peers
              (.enterScreen one.screenId x y) = .ok first →
            executeHostEffect closed topology injectorReady sources peers
              (.enterScreen other.screenId x y) = .ok second →
            first.1 ≠ second.1

variable {desktop : Desktop} {topology : ScreenTopology} {localScreen : ScreenId}
  {effect : SessionEffect} {x y globalX globalY : Int}

/-! ## What reaches the device -/

theorem executeHostEffect_enterScreen {closed : Finset Nat} {injectorReady : Bool}
    {sources : LocalInputSources} {peers later : Peers} {screenId : ScreenId}
    {outputs : List HostOutput} :
    executeHostEffect closed topology injectorReady sources peers (.enterScreen screenId x y) =
        .ok (outputs, later) ↔
      ∃ device peer, peerForScreen peers topology screenId = .ok (device, peer) ∧
        peer.connection.id ∉ closed ∧ outputs = [.write device (.enterScreen x y)] ∧
        later = peers := by
  simp only [executeHostEffect, Outcome.bind_eq_ok, writeReliable_eq_ok, Outcome.pure_eq,
    Outcome.ok.injEq, Prod.mk.injEq]
  constructor
  · rintro ⟨⟨device, peer⟩, present, _, ⟨isOpen, rfl⟩, rfl, rfl⟩
    exact ⟨device, peer, present, isOpen, rfl, rfl⟩
  · rintro ⟨device, peer, present, isOpen, rfl, rfl⟩
    exact ⟨(device, peer), present, _, ⟨isOpen, rfl⟩, rfl, rfl⟩

theorem handleReliable_enterScreen (client : ClientState) (serverPeer : PeerSummary) (x y : Int) :
    client.handleReliable serverPeer (.enterScreen x y) = .ok ([.setCursorPosition x y], client) :=
        rfl

/-- The device gets the coordinates that the session emitted, whatever the screen. -/
theorem Delivers.coordinates {screenId : ScreenId}
    (places : effect.placement localScreen = some (screenId, x, y))
    (delivers : Delivers topology effect globalX globalY) : globalX = x ∧ globalY = y := by
  cases effect with
  | setLocalCursor emittedX emittedY =>
      obtain ⟨_, rfl, rfl⟩ : localScreen = screenId ∧ emittedX = x ∧ emittedY = y := by
        simpa [SessionEffect.placement] using places
      cases delivers with
      | onHost executed placed =>
          simp only [executeHostEffect, Outcome.bind_eq_ok, Outcome.pure_eq, Outcome.ok.injEq,
            Prod.mk.injEq] at executed
          obtain ⟨_, _, rfl, _⟩ := executed
          simpa using placed
      | onClient executed written =>
          simp only [executeHostEffect, Outcome.bind_eq_ok, Outcome.pure_eq, Outcome.ok.injEq,
            Prod.mk.injEq] at executed
          obtain ⟨_, _, rfl, _⟩ := executed
          simp at written
  | enterScreen entered emittedX emittedY =>
      obtain ⟨_, rfl, rfl⟩ : entered = screenId ∧ emittedX = x ∧ emittedY = y := by
        simpa [SessionEffect.placement] using places
      cases delivers with
      | onHost executed placed =>
          obtain ⟨_, _, _, _, rfl, _⟩ := executeHostEffect_enterScreen.mp executed
          simp at placed
      | onClient executed written handled placed =>
          obtain ⟨_, _, _, _, rfl, _⟩ := executeHostEffect_enterScreen.mp executed
          obtain ⟨rfl, rfl⟩ := HostOutput.write.inj (List.mem_singleton.mp written)
          rw [handleReliable_enterScreen] at handled
          obtain ⟨rfl, _⟩ := Prod.mk.inj (Outcome.ok.inj handled)
          simpa using placed
  | _ => cases places

/-! ## Runs that enter a screen -/

theorem alongEdge_same {value extent : Int} (inside : 0 ≤ value ∧ value < extent) :
    alongEdge value extent extent = .ok value := by
  have positive : 0 < extent := by omega
  have bounded : max 0 (min (extent - 1) value) = value := by omega
  rw [alongEdge, TopologyRouter.checkedPred_of_pos positive, Outcome.ok_bind,
    clamp_eq_ok.mpr ⟨by omega, rfl⟩, Outcome.ok_bind, bounded, scaleAxis, if_neg positive.ne',
    TopologyRouter.checkedPred_of_pos positive, Outcome.ok_bind,
    Int.mul_tdiv_cancel value positive.ne', clamp_eq_ok]
  exact ⟨by omega, bounded.symm⟩

namespace TopologyRouter

/-- Pushed twice against a linked border, with the switch delay in between, the cursor crosses. -/
theorem crosses_linked_border {router : TopologyRouter} {size targetSize : ScreenSize} {edge : Edge}
    {target : ScreenEdge} {dx dy enteredX enteredY : Int}
    (sized : router.screenSize router.active = .ok size)
    (pushes : crossedEdge size router.x router.y dx dy = .ok (some edge))
    (linked : router.linkedEdge edge = some target) (fresh : router.barrier = .reset)
    (settles : clampInto size (saturatingAdd router.x dx) (saturatingAdd router.y dy) =
      .ok (router.x, router.y))
    (targetSized : router.screenSize target.screenId = .ok targetSize)
    (enters : entryPoint edge size targetSize (saturatingAdd router.x dx)
      (saturatingAdd router.y dy) = .ok (enteredX, enteredY)) :
    ∃ waiting entered, router.routeMotionAt dx dy 0 = .ok (.stay router.active dx dy, waiting) ∧
      waiting.routeMotionAt dx dy edgeSwitchDelayMicros =
        .ok (.cross target.screenId enteredX enteredY, entered) ∧
      entered.topology = router.topology := by
  let waiting : TopologyRouter :=
    { router with barrier := { edge := some edge, distance := 0, sinceMicros := some 0 } }
  refine ⟨waiting,
    { waiting with active := target.screenId, x := enteredX, y := enteredY, barrier := .reset },
    ?_, ?_, rfl⟩
  · simp [routeMotionAt, routeMotionInner, sized, pushes, linked, pressEdge, pressBarrier, fresh,
      EdgeBarrier.waitElapsed, EdgeBarrier.reset, settle, settles, waiting]
  · have sameSize (barrier : EdgeBarrier Edge) (id : ScreenId) :
        { router with barrier }.screenSize id = router.screenSize id := rfl
    have sameLink (barrier : EdgeBarrier Edge) :
        { router with barrier }.linkedEdge edge = router.linkedEdge edge := rfl
    simp [routeMotionAt, routeMotionInner, sameSize, sized, pushes, sameLink, linked, pressEdge,
      pressBarrier, EdgeBarrier.waitElapsed, targetSized, enters, waiting]

end TopologyRouter

theorem clampInto_of_positive {size : ScreenSize} (positive : size.Positive) (x y : Int) :
    TopologyRouter.clampInto size x y =
      .ok (max 0 (min (size.width - 1) x), max 0 (min (size.height - 1) y)) := by
  obtain ⟨width, height⟩ := positive
  rw [TopologyRouter.clampInto, TopologyRouter.checkedPred_of_pos width, Outcome.ok_bind,
    clamp_eq_ok.mpr ⟨by omega, rfl⟩, Outcome.ok_bind, TopologyRouter.checkedPred_of_pos height,
    Outcome.ok_bind, clamp_eq_ok.mpr ⟨by omega, rfl⟩, Outcome.ok_bind, Outcome.pure_eq]

theorem saturatingAdd_of_fits {value step : Int} (lower : 0 ≤ value + step)
    (upper : value + step ≤ i32Max) : saturatingAdd value step = value + step := by
  simp only [saturatingAdd, saturate, i32Min, i32Max] at upper ⊢
  omega

/-- A screen id that is not among the given ones. -/
theorem exists_fresh_screenId (ids : List ScreenId) : ∃ id ∉ ids, isBlank id.value = false := by
  let name (length : Nat) : ScreenId := ⟨String.ofList (List.replicate (length + 1) 'a')⟩
  have injective : Function.Injective name := by
    intro one other same
    simpa [name] using congrArg (fun id => id.value.toList.length) same
  obtain ⟨_, ⟨length, rfl⟩, fresh⟩ :=
    (Set.infinite_range_of_injective injective).exists_notMem_finset ids.toFinset
  refine ⟨name length, by simpa using fresh, ?_⟩
  simp [name, isBlank, List.replicate_succ, isWhiteSpace]

/-- The node of a desktop's screen. -/
def DesktopScreen.node (device : TopologyDeviceId) (screen : DesktopScreen) : ScreenNode :=
  { sampleNode screen.screenId.value device.value true false with logicalSize := screen.size }

/-- A topology that links a screen of the host, of the same size, to a screen of a desktop. -/
def Desktop.beside (desktop : Desktop) (own : ScreenId) (target : DesktopScreen) (edge : Edge) :
    ScreenTopology where
  revision := 0
  screens :=
    { sampleNode own.value "host" true true with logicalSize := target.size } ::
      desktop.screens.map (DesktopScreen.node desktop.device)
  links :=
    [{ fromEdge := { screenId := own, edge }
       toEdge := { screenId := target.screenId, edge := edge.opposite } }]

section Beside

variable {own : ScreenId} {target : DesktopScreen} {edge : Edge}

theorem Desktop.beside_wellFormed (edge : Edge) (visible : isBlank own.value = false)
    (fresh : own ∉ desktop.screens.map DesktopScreen.screenId) (listed : target ∈ desktop.screens) :
    (desktop.beside own target edge).WellFormed := by
  have ids : (desktop.beside own target edge).screens.map ScreenNode.screenId =
      own :: desktop.screens.map DesktopScreen.screenId := by
    simp [Desktop.beside, DesktopScreen.node, sampleNode, Function.comp_def]
  have known : target.screenId ∈ desktop.screens.map DesktopScreen.screenId :=
    List.mem_map_of_mem listed
  have apart : own ≠ target.screenId := fun same => fresh (same ▸ known)
  refine ⟨?_, ?_⟩
  · rw [ids]
    refine ⟨?_, List.nodup_cons.mpr ⟨fresh, desktop.distinct.distinct⟩⟩
    intro id member
    rcases List.mem_cons.mp member with rfl | member
    · exact visible
    · exact desktop.distinct.visible id member
  · rw [ids]
    refine linksWellFormed_cons.mpr ⟨⟨List.mem_cons_self, List.mem_cons_of_mem _ known⟩, rfl,
      by simp, linksWellFormed_nil _⟩

theorem Desktop.beside_find_own (desktop : Desktop) (own : ScreenId) (target : DesktopScreen)
    (edge : Edge) :
    (desktop.beside own target edge).find own =
      some { sampleNode own.value "host" true true with logicalSize := target.size } := by
  simp [ScreenTopology.find, Desktop.beside, sampleNode]

theorem Desktop.beside_find (edge : Edge) (visible : isBlank own.value = false)
    (fresh : own ∉ desktop.screens.map DesktopScreen.screenId) (listed : target ∈ desktop.screens)
    {screen : DesktopScreen} (member : screen ∈ desktop.screens) :
    (desktop.beside own target edge).find screen.screenId = some (screen.node desktop.device) :=
  (Desktop.beside_wellFormed edge visible fresh listed).find_of_mem
    (List.mem_cons_of_mem _ (List.mem_map_of_mem member))

theorem Desktop.beside_shows (edge : Edge) (visible : isBlank own.value = false)
    (fresh : own ∉ desktop.screens.map DesktopScreen.screenId) (listed : target ∈ desktop.screens) :
    (desktop.beside own target edge).Shows desktop :=
  fun _ member => ⟨_, Desktop.beside_find edge visible fresh listed member, rfl, rfl⟩

/-- Pushed against the linked border of its own screen, the host enters the screen of the
desktop. -/
theorem Desktop.emits_enterScreen (x y dx dy : Int) (visible : isBlank own.value = false)
    (fresh : own ∉ desktop.screens.map DesktopScreen.screenId) (listed : target ∈ desktop.screens)
    {enteredX enteredY : Int} (inside : target.size.Contains x y)
    (pushes : TopologyRouter.crossedEdge target.size x y dx dy = .ok (some edge))
    (settles : TopologyRouter.clampInto target.size (saturatingAdd x dx) (saturatingAdd y dy) =
      .ok (x, y))
    (enters : TopologyRouter.entryPoint edge target.size target.size (saturatingAdd x dx)
      (saturatingAdd y dy) = .ok (enteredX, enteredY)) :
    Emits (desktop.beside own target edge) own
      (.enterScreen target.screenId enteredX enteredY) := by
  have apart : target.screenId ≠ own := fun same => fresh (same ▸ List.mem_map_of_mem listed)
  have valid : (desktop.beside own target edge).validate = .ok () :=
    ScreenTopology.validate_eq_ok.mpr (Desktop.beside_wellFormed edge visible fresh listed)
  have found := Desktop.beside_find_own desktop own target edge
  have foundTarget := Desktop.beside_find edge visible fresh listed listed
  let router : TopologyRouter :=
    { topology := desktop.beside own target edge, active := own, x, y, barrier := .reset }
  have sized : router.screenSize router.active = .ok target.size :=
    TopologyRouter.screenSize_eq_ok.mpr ⟨_, found, rfl⟩
  have linked : router.linkedEdge edge =
      some { screenId := target.screenId, edge := edge.opposite } := by
    refine TopologyRouter.linkedEdge_of_joins
      (Desktop.beside_wellFormed edge visible fresh listed) List.mem_cons_self
      (Or.inl ⟨rfl, rfl⟩) ?_
    rw [TopologyRouter.isOnline, foundTarget]
    rfl
  obtain ⟨waiting, entered, waits, crosses, current⟩ :=
    TopologyRouter.crosses_linked_border sized pushes linked rfl settles
      (TopologyRouter.screenSize_eq_ok.mpr ⟨_, foundTarget, rfl⟩) enters
  let motion (timestampMicros : Nat) : HostInput := .physicalMotion ⟨0, timestampMicros, dx, dy⟩
  let session (router : TopologyRouter) : DesktopSession :=
    { role := .host
      router := some (.topology router own)
      control := .localControl
      physicalHeld := ∅
      localInjected := ∅
      remoteInjected := ∅
      lastRemoteMotion := none }
  have built : DesktopSession.hostTopology (desktop.beside own target edge) own x y =
      .ok (session router) := by
    have activeSized : TopologyRouter.activeSize (desktop.beside own target edge) own =
        .ok target.size := TopologyRouter.activeSize_eq_ok.mpr ⟨_, found, rfl⟩
    have stillX : max 0 (min (target.size.width - 1) x) = x := by
      have := inside.horizontal
      omega
    have stillY : max 0 (min (target.size.height - 1) y) = y := by
      have := inside.vertical
      omega
    simp only [DesktopSession.hostTopology, TopologyRouter.new, valid, Outcome.ok_bind, activeSized,
      clampInto_of_positive target.positive, stillX, stillY]
    rfl
  have stays : (session router).feed (motion 0) =
      .ok ([.injectLocalMotion dx dy], session waiting) := by
    simp [DesktopSession.feed, DesktopSession.handle, DesktopSession.handlePhysicalMotion, session,
      motion, waits, DesktopSession.followRoute, router]
  have goes : (session waiting).feed (motion edgeSwitchDelayMicros) =
      .ok ((session entered).enterScreen waiting.active target.screenId enteredX enteredY) := by
    simp [DesktopSession.feed, DesktopSession.handle, DesktopSession.handlePhysicalMotion, session,
      motion, crosses, DesktopSession.followRoute, apart]
  exact .after built (Machine.run_singleton_eq_ok.mpr stays) goes rfl current
    (by simp [session, DesktopSession.injectAll])

end Beside

/-! ## Exactly the devices with one screen at the origin -/

/-- Screens of any desktop are entered one pixel inside a border, anywhere along it. -/
theorem Desktop.emits_inside (desktop : Desktop) {target : DesktopScreen}
    (listed : target ∈ desktop.screens) :
    (∀ y, 0 ≤ y → y < target.size.height → ∃ topology own, topology.Shows desktop ∧
        Emits topology own (.enterScreen target.screenId (min 1 (target.size.width - 1)) y)) ∧
      ∀ x, 0 ≤ x → x < target.size.width → ∃ topology own, topology.Shows desktop ∧
        Emits topology own (.enterScreen target.screenId x (min 1 (target.size.height - 1))) := by
  obtain ⟨own, fresh, visible⟩ :=
    exists_fresh_screenId (desktop.screens.map DesktopScreen.screenId)
  obtain ⟨width, height⟩ := target.positive
  obtain ⟨widthFits, heightFits⟩ := target.fits
  constructor
  · intro y top bottom
    have overX : saturatingAdd (target.size.width - 1) 1 = target.size.width - 1 + 1 :=
      saturatingAdd_of_fits (by omega) (by omega)
    have overY : saturatingAdd y 0 = y + 0 := saturatingAdd_of_fits (by omega) (by omega)
    refine ⟨_, own, Desktop.beside_shows .right visible fresh listed,
      Desktop.emits_enterScreen (target.size.width - 1) y 1 0 visible fresh listed
        ⟨by omega, by omega⟩ ?_ ?_ ?_⟩
    · simp [TopologyRouter.crossedEdge, TopologyRouter.checkedPred_of_pos width]
    · rw [clampInto_of_positive target.positive, overX, overY]
      simp only [Outcome.ok.injEq, Prod.mk.injEq]
      omega
    · simp [TopologyRouter.entryPoint, overY, alongEdge_same ⟨top, bottom⟩, nearSide,
        TopologyRouter.checkedPred_of_pos width]
  · intro x left right
    have overX : saturatingAdd x 0 = x + 0 := saturatingAdd_of_fits (by omega) (by omega)
    have overY : saturatingAdd (target.size.height - 1) 1 = target.size.height - 1 + 1 :=
      saturatingAdd_of_fits (by omega) (by omega)
    refine ⟨_, own, Desktop.beside_shows .bottom visible fresh listed,
      Desktop.emits_enterScreen x (target.size.height - 1) 0 1 visible fresh listed
        ⟨by omega, by omega⟩ ?_ ?_ ?_⟩
    · simp [TopologyRouter.crossedEdge, TopologyRouter.checkedPred_of_pos width,
        TopologyRouter.checkedPred_of_pos height]
    · rw [clampInto_of_positive target.positive, overX, overY]
      simp only [Outcome.ok.injEq, Prod.mk.injEq]
      omega
    · simp [TopologyRouter.entryPoint, overX, alongEdge_same ⟨left, right⟩, nearSide,
        TopologyRouter.checkedPred_of_pos height]

/-- The peers that a host has when just one device is connected. -/
def onlyConnected (device : TopologyDeviceId) : Peers := AList.singleton device (samplePeer 0)

theorem executes_enterScreen (shows : topology.Shows desktop) {screen : DesktopScreen}
    (member : screen ∈ desktop.screens) (x y : Int) :
    executeHostEffect ∅ topology true ⟨none, ∅⟩ (onlyConnected desktop.device)
        (.enterScreen screen.screenId x y) =
      .ok ([.write desktop.device (.enterScreen x y)], onlyConnected desktop.device) := by
  obtain ⟨node, found, device, _⟩ := shows screen member
  exact executeHostEffect_enterScreen.mpr ⟨desktop.device, samplePeer 0,
    peerForScreen_eq_ok.mpr ⟨node, found, device.symm, List.dlookup_cons_eq ..⟩, by simp, rfl, rfl⟩

theorem delivers_enterScreen (shows : topology.Shows desktop) {screen : DesktopScreen}
    (member : screen ∈ desktop.screens) (x y : Int) :
    Delivers topology (.enterScreen screen.screenId x y) x y :=
  .onClient (executes_enterScreen shows member x y) (List.mem_singleton_self _)
    (handleReliable_enterScreen
      { session := .client, files := { inventory := .absent, layout := .absent },
          knownScreens := [] }
      { deviceId := sampleDeviceId 1, displayName := "" } x y) (List.mem_singleton_self _)

theorem placesRight_iff :
    PlacesRight desktop ↔ ∀ screen ∈ desktop.screens, screen.x = 0 ∧ screen.y = 0 := by
  constructor
  · intro places screen member
    obtain ⟨width, height⟩ := screen.positive
    obtain ⟨alongLeft, alongTop⟩ := desktop.emits_inside member
    have covers {x y : Int} (inside : screen.size.Contains x y)
        (emits : ∃ topology own, topology.Shows desktop ∧
          Emits topology own (.enterScreen screen.screenId x y)) : screen.Covers x y := by
      obtain ⟨topology, own, shows, emits⟩ := emits
      exact places shows emits screen member x y rfl inside x y
        (delivers_enterScreen shows member x y)
    have left := covers ⟨by omega, by omega⟩ (alongTop 0 (by omega) (by omega))
    have right := covers ⟨by omega, by omega⟩
        (alongTop (screen.size.width - 1) (by omega) (by omega))
    have top := covers ⟨by omega, by omega⟩ (alongLeft 0 (by omega) (by omega))
    have bottom :=
      covers ⟨by omega, by omega⟩ (alongLeft (screen.size.height - 1) (by omega) (by omega))
    have := left.horizontal
    have := right.horizontal
    have := top.vertical
    have := bottom.vertical
    omega
  · intro origin topology localScreen effect _ _ screen member x y placement inside globalX globalY
      delivers
    obtain ⟨rfl, rfl⟩ := delivers.coordinates placement
    obtain ⟨originX, originY⟩ := origin screen member
    obtain ⟨horizontal, vertical⟩ := inside
    exact ⟨by omega, by omega⟩

theorem tellsApart_iff :
    TellsApart desktop ↔ ∀ one ∈ desktop.screens, ∀ other ∈ desktop.screens, one = other := by
  constructor
  · intro apart one listed other otherListed
    by_contra different
    obtain ⟨own, fresh, visible⟩ :=
      exists_fresh_screenId (desktop.screens.map DesktopScreen.screenId)
    have shows := Desktop.beside_shows .right visible fresh listed
    have corner (screen : DesktopScreen) : screen.size.Contains 0 0 :=
      ⟨⟨le_rfl, screen.positive.1⟩, ⟨le_rfl, screen.positive.2⟩⟩
    exact apart shows one listed other otherListed different 0 0 (corner one) (corner other) _ _
      (executes_enterScreen shows listed 0 0) (executes_enterScreen shows otherListed 0 0) rfl
  · intro single _ _ _ _ _ _ one listed other otherListed different
    exact absurd (single one listed other otherListed) different

/-- The cursor is placed on the screen that the host routes to, and the frames tell the screens of
the device apart, exactly when the device has no screen but one at the origin. -/
theorem cursor_placed_iff :
    (PlacesRight desktop ∧ TellsApart desktop) ↔
      ∀ screen ∈ desktop.screens, (screen.x = 0 ∧ screen.y = 0) ∧
        ∀ other ∈ desktop.screens, screen = other := by
  rw [placesRight_iff, tellsApart_iff]
  exact ⟨fun ⟨origin, single⟩ screen member => ⟨origin screen member, single screen member⟩,
    fun every => ⟨fun screen member => (every screen member).1,
      fun screen member => (every screen member).2⟩⟩

/-- A screen of one hundred pixels each way at the given place along a row. -/
def sampleDesktopScreen (name : String) (x : Int) : DesktopScreen where
  screenId := ⟨name⟩
  size := ⟨100, 100⟩
  x := x
  y := 0
  positive := by decide
  fits := by simp [ScreenSize.Fits, i32Max]

/-- Two screens of the same size, the second to the right of the first. -/
def sampleDesktop : Desktop where
  device := ⟨"peer"⟩
  screens := [sampleDesktopScreen "first" 0, sampleDesktopScreen "second" 100]
  distinct := ⟨by decide, by decide⟩

/-- The host enters the second screen at `(1, 50)`; the device gets that as a position on its first
screen, and entering the first screen there writes the same frame. -/
theorem second_screen_missed :
    ∃ topology, topology.Shows sampleDesktop ∧
      Emits topology ⟨"own"⟩ (.enterScreen ⟨"second"⟩ 1 50) ∧
      (sampleDesktopScreen "second" 100).size.Contains 1 50 ∧
      Delivers topology (.enterScreen ⟨"second"⟩ 1 50) 1 50 ∧
      ¬ (sampleDesktopScreen "second" 100).Covers 1 50 ∧
          (sampleDesktopScreen "first" 0).Covers 1 50 ∧
      ¬ PlacesRight sampleDesktop ∧ ¬ TellsApart sampleDesktop := by
  let topology := sampleDesktop.beside ⟨"own"⟩ (sampleDesktopScreen "second" 100) .right
  have listed : sampleDesktopScreen "second" 100 ∈ sampleDesktop.screens := by simp [sampleDesktop]
  have shows : topology.Shows sampleDesktop :=
    Desktop.beside_shows _ (by decide) (by decide) listed
  have emits : Emits topology ⟨"own"⟩ (.enterScreen ⟨"second"⟩ 1 50) := by
    let pushes (timestampMicros : Nat) : HostInput := .physicalMotion ⟨0, timestampMicros, 1, 0⟩
    obtain ⟨session, built⟩ :
        ∃ session, DesktopSession.hostTopology topology ⟨"own"⟩ 99 50 = .ok session := ⟨_, rfl⟩
    obtain ⟨earlier, reached, emitted, next, router, ran, fed, routes, current, member⟩ :
        ∃ earlier reached emitted next router,
          Machine.run DesktopSession.feed session [pushes 0] = .ok (earlier, reached) ∧
          reached.feed (pushes 250000) = .ok (emitted, next) ∧
          next.router = some (.topology router ⟨"own"⟩) ∧ router.topology = topology ∧
          .enterScreen ⟨"second"⟩ 1 50 ∈ emitted := by
      obtain rfl := Outcome.ok.inj built
      exact ⟨_, _, _, _, _, rfl, rfl, rfl, rfl, by decide⟩
    exact .after built ran fed routes current member
  have missed : ¬ (sampleDesktopScreen "second" 100).Covers 1 50 := fun covers => by
    simpa [sampleDesktopScreen] using covers.horizontal
  have inside : (sampleDesktopScreen "second" 100).size.Contains 1 50 := ⟨by decide, by decide⟩
  have delivers : Delivers topology (.enterScreen ⟨"second"⟩ 1 50) 1 50 :=
    delivers_enterScreen shows listed 1 50
  refine ⟨topology, shows, emits, inside, delivers, missed, ⟨by decide, by decide⟩, ?_, ?_⟩
  · exact fun places => missed (places shows emits _ listed 1 50 rfl inside 1 50 delivers)
  · intro apart
    have same :=
      tellsApart_iff.mp apart (sampleDesktopScreen "first" 0) (by simp [sampleDesktop]) _ listed
    simpa [sampleDesktopScreen] using congrArg DesktopScreen.x same

end Rflow
