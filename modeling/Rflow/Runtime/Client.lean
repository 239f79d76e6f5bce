import Rflow.Runtime.Effects
import Rflow.Store.TopologyStore

/-!
# The client connection

A connected client handles pointer datagrams, frames of the reliable stream and polls of its own
screens, one at a time.
-/

namespace Rflow

open Foundation

/-- What a client does to the world. -/
inductive ClientOutput where
  | emit (event : InputEvent)
  | emitMotion (dx dy : Int)
  | setCursorPosition (x y : Int)
  | write (event : ReliableEvent)
  | notify (event : AppEvent)
  | motionDropped (sequence : Nat)
  deriving DecidableEq

/-- Carry out the effects of a client session; the effects of a host do not belong there. -/
def executeClientEffects : List SessionEffect → Outcome RuntimeError (List ClientOutput)
  | [] => .ok []
  | effect :: rest => do
      let output ← match effect with
        | .injectLocal event => .ok (ClientOutput.emit event)
        | .injectLocalMotion dx dy => .ok (ClientOutput.emitMotion dx dy)
        | .setLocalCursor x y => .ok (ClientOutput.setCursorPosition x y)
        | _ => .err .hostOnlyEffect
      let outputs ← executeClientEffects rest
      pure (output :: outputs)

structure ClientState where
  session : DesktopSession
  files : TopologyFiles
  knownScreens : List WireScreenDescriptor
  deriving DecidableEq

namespace ClientState

/-- Feed an event to the client session and carry out its effects. -/
def handleEvent (state : ClientState) (event : SessionEvent) :
    Outcome RuntimeError (List ClientOutput × ClientState) := do
  let (effects, session) ← (state.session.handle event).mapErr RuntimeError.other
  let outputs ← executeClientEffects effects
  pure (outputs, { state with session })

/-- Merge the screens that the server reported into the files of the client. -/
def handleScreenInventory (state : ClientState) (serverPeer : PeerSummary)
    (screens : List WireScreenDescriptor) :
    Outcome String (List ClientOutput × ClientState) := do
  let report ← validateWireScreens screens
  let stored ← state.files.loadState
  let inventory := mergeRemoteInventory stored.inventory serverPeer report
  let files ← state.files.saveInventory inventory
  let topology ← (stored.layout.resolve inventory).mapErr LayoutError.display
  pure ([.notify (.topologyChanged topology)], { state with files })

/-- Handle one frame of the reliable stream. -/
def handleReliable (serverPeer : PeerSummary) (state : ClientState) (event : ReliableEvent) :
    Outcome RuntimeError (List ClientOutput × ClientState) :=
  match event with
  | .input .. => do
      let input ← (decodeInput event).mapErr RuntimeError.conversion
      state.handleEvent (.remoteInput input)
  | .enterScreen x y => state.handleEvent (.enterRemote x y)
  | .releaseAll => state.handleEvent .releaseRemote
  | .heartbeat _ => .ok ([], state)
  | .screenInventory screens =>
      (state.handleScreenInventory serverPeer screens).mapErr RuntimeError.other
  | .hello .. | .clientHello .. => .err .unexpectedHandshake

/-- Handle one pointer datagram. -/
def handleDatagram (state : ClientState) (dto : MotionDto) :
    Outcome RuntimeError (List ClientOutput × ClientState) := do
  let (effects, session) ←
    (state.session.handle (.remoteMotion dto.toMotion)).mapErr RuntimeError.other
  let outputs ← executeClientEffects effects
  pure ((if effects = [] then [.motionDropped dto.sequence] else []) ++ outputs,
    { state with session })

/-- Report the screens of the client when they have changed; the platform may fail to list them. -/
def pollInventory (state : ClientState) (detected : Option (List DetectedScreen)) :
    List ClientOutput × ClientState :=
  match detected with
  | none => ([], state)
  | some screens =>
      let current := wireScreens screens
      if current = state.knownScreens then
        ([], state)
      else
        ([.write (.screenInventory current)], { state with knownScreens := current })

end ClientState

/-- The held inputs on a client after a frame. -/
def heldAfterFrame (held : OrderedSet HeldInput) (frame : ReliableEvent) : OrderedSet HeldInput :=
  match frame with
  | .releaseAll => ∅
  | _ =>
      match decodeInput frame with
      | .ok event => observe held event
      | _ => held

namespace ClientState

/-- Handling a frame changes the injected inputs as the frame says, and keeps the role. -/
theorem handleReliable_localInjected {serverPeer : PeerSummary} {state next : ClientState}
    {frame : ReliableEvent} {outputs : List ClientOutput} (role : state.session.role = .client)
    (handled : state.handleReliable serverPeer frame = .ok (outputs, next)) :
    next.session.role = .client ∧
      next.session.localInjected = heldAfterFrame state.session.localInjected frame := by
  have fed {event : SessionEvent} {outputs : List ClientOutput}
      (accepted : state.handleEvent event = .ok (outputs, next)) :
      ∃ effects, state.session.handle event = .ok (effects, next.session) := by
    simp only [handleEvent, Outcome.bind_eq_ok, Outcome.mapErr_eq_ok, Outcome.pure_eq,
      Outcome.ok.injEq, Prod.mk.injEq] at accepted
    obtain ⟨⟨effects, session⟩, handledEvent, _, _, _, rfl⟩ := accepted
    exact ⟨effects, handledEvent⟩
  cases frame with
  | input sequence eventType code value =>
      simp only [handleReliable, Outcome.bind_eq_ok, Outcome.mapErr_eq_ok] at handled
      obtain ⟨event, decoded, accepted⟩ := handled
      obtain ⟨effects, same⟩ := fed accepted
      obtain ⟨_, sameSession⟩ := Prod.mk.inj (Outcome.ok.inj same)
      simp [heldAfterFrame, decoded, ← sameSession, role]
  | enterScreen x y =>
      obtain ⟨effects, same⟩ := fed handled
      obtain ⟨_, sameSession⟩ := Prod.mk.inj (Outcome.ok.inj same)
      simp [heldAfterFrame, decodeInput, ← sameSession, role]
  | releaseAll =>
      obtain ⟨effects, same⟩ := fed handled
      have released : (effects, next.session) = state.session.releaseInjected :=
        (Outcome.ok.inj same).symm
      simp only [DesktopSession.releaseInjected, role, reduceCtorEq, false_and, if_false,
        Prod.mk.injEq] at released
      simp [heldAfterFrame, released.2]
  | heartbeat sequence =>
      obtain ⟨_, rfl⟩ := Prod.mk.inj (Outcome.ok.inj handled)
      exact ⟨role, rfl⟩
  | screenInventory screens =>
      simp only [handleReliable, handleScreenInventory, Outcome.bind_eq_ok, Outcome.mapErr_eq_ok,
        Outcome.pure_eq, Outcome.ok.injEq, Prod.mk.injEq] at handled
      obtain ⟨_, _, _, _, _, _, _, _, _, rfl⟩ := handled
      exact ⟨role, rfl⟩
  | hello version screens => cases handled
  | clientHello version screens => cases handled

/-- A pointer datagram leaves the injected inputs alone. -/
theorem handleDatagram_localInjected {state next : ClientState} {dto : MotionDto}
    {outputs : List ClientOutput} (handled : state.handleDatagram dto = .ok (outputs, next)) :
    next.session.role = state.session.role ∧
      next.session.localInjected = state.session.localInjected := by
  simp only [handleDatagram, DesktopSession.handle, Outcome.bind_eq_ok, Outcome.mapErr_eq_ok,
    Outcome.pure_eq, Outcome.ok.injEq, Prod.mk.injEq] at handled
  obtain ⟨⟨effects, session⟩, moved, _, _, _, rfl⟩ := handled
  split_ifs at moved <;> obtain ⟨_, rfl⟩ := Prod.mk.inj (Outcome.ok.inj moved) <;> exact ⟨rfl, rfl⟩

end ClientState
end Rflow
