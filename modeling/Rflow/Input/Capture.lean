import Rflow.Foundation.Channel
import Rflow.Foundation.Flow
import Rflow.Foundation.Watch
import Rflow.Core.Numeric
import Rflow.Wire.Protocol

/-!
# Capture of the input devices

Each input device has a thread of its own.  The threads share a counter, a bounded channel for keys,
buttons and scrolls, and a watched value for pointer motion; the host reads the channel and the
value in any order.  The threads may come between each other wherever they touch what they share.
-/

namespace Rflow

open Foundation

def evKey : Nat := 1

def evRel : Nat := 2

def relX : Nat := 0

def relY : Nat := 1

/-- An event as a device reports it. -/
structure RawEvent where
  eventType : Nat
  code : Nat
  value : Int
  deriving DecidableEq

/-- What a capture thread hands to its callback. -/
inductive NativeCapturedEvent where
  | input (source sequence eventType code : Nat) (value : Int)
  | motion (source sequence timestampMicros : Nat) (dx dy : Int)
  deriving DecidableEq

def NativeCapturedEvent.source : NativeCapturedEvent → Nat
  | input source .. | motion source .. => source

def NativeCapturedEvent.sequence : NativeCapturedEvent → Nat
  | input _ sequence .. | motion _ sequence .. => sequence

/-- Events that a device reports together: those still to be looked at, and the motion so far. -/
structure Batch where
  events : List RawEvent
  dx : Int
  dy : Int
  deriving DecidableEq

/-- Where the thread of a device is. -/
inductive CaptureThread where
  /-- At the head of its loop, where it looks whether it is to stop. -/
  | polling
  /-- Before it reads its device. -/
  | fetching
  | running (batch : Batch)
  /-- In the callback, with the rest of the batch ahead. -/
  | calling (event : NativeCapturedEvent) (batch : Batch)
  | ended
  deriving DecidableEq

/-- A key, button or scroll on its way to the host. -/
structure ReliableCapture where
  source : Nat
  sequence : Nat
  event : InputEvent
  deriving DecidableEq

structure Capture (devices : Nat) where
  threads : Fin devices → CaptureThread
  sequence : Nat
  reliable : Channel ReliableCapture 256
  motion : Watch (Option (Nat × Motion))
  stopped : Bool

inductive CaptureInput (devices : Nat) where
  /-- The thread of a device is not told to stop. -/
  | poll (source : Fin devices)
  /-- The thread of a device reads the events that are there. -/
  | fetch (source : Fin devices) (events : List RawEvent)
  /-- A thread goes on with its batch. -/
  | advance (source : Fin devices) (timestampMicros : Nat)
  /-- The callback of a thread runs. -/
  | call (source : Fin devices)
  /-- A thread ends: it notices that it is to stop, or its device fails. -/
  | leave (source : Fin devices)
  /-- The host takes the next event of the channel. -/
  | receive
  /-- The host takes the latest motion. -/
  | receiveMotion
  /-- The host drops the capture. -/
  | stop
  deriving DecidableEq

inductive CaptureOutput where
  | called (event : NativeCapturedEvent)
  | captured (event : ReliableCapture)
  | moved (source : Nat) (motion : Motion)
  | failed (message : String)
  deriving DecidableEq

/-- What the callback sends through the channel; other events of devices are ignored. -/
def NativeCapturedEvent.reliable : NativeCapturedEvent → Option ReliableCapture
  | input source sequence eventType code value =>
      match decodeNativeInput eventType code value with
      | .ok event => some { source, sequence, event }
      | _ => none
  | motion .. => none

namespace Capture

variable {devices : Nat}

def start (devices : Nat) : Capture devices where
  threads := fun _ => .polling
  sequence := 0
  reliable := .empty
  motion := .initial none
  stopped := false

/-- The capture with one of its threads as given. -/
def placing (capture : Capture devices) (source : Fin devices) (thread : CaptureThread) :
    Capture devices :=
  { capture with threads := Function.update capture.threads source thread }

/-- One step through a batch: motion is added up, keys and scrolls are numbered and handed over, and
so is the motion at the end. -/
def look (source sequence timestampMicros : Nat) : Batch → CaptureThread × Nat
  | { events := event :: events, dx, dy } =>
      if event.eventType = evRel ∧ event.code = relX then
        (.running { events, dx := saturatingAdd dx event.value, dy }, sequence)
      else if event.eventType = evRel ∧ event.code = relY then
        (.running { events, dx, dy := saturatingAdd dy event.value }, sequence)
      else if event.eventType = evKey ∨ event.eventType = evRel then
        (.calling (.input source (wrappingSucc sequence) event.eventType event.code event.value)
          { events, dx, dy }, wrappingSucc sequence)
      else
        (.running { events, dx, dy }, sequence)
  | { events := [], dx, dy } =>
      if dx ≠ 0 ∨ dy ≠ 0 then
        -- After its motion a batch has nothing left.
        (.calling (.motion source (wrappingSucc sequence) timestampMicros dx dy)
          { events := [], dx := 0, dy := 0 }, wrappingSucc sequence)
      else
        (.polling, sequence)

/-- What the callback does: `blocking_send` waits for room unless the receiver is gone, while the
latest motion takes the place of the one before. -/
def callback (capture : Capture devices) (event : NativeCapturedEvent) : Option (Capture devices) :=
  match event with
  | .input .. =>
      match event.reliable with
      | some captured =>
          if capture.stopped then
            some capture
          else
            (capture.reliable.send captured).map fun reliable => { capture with reliable }
      | none => some capture
  | .motion source sequence timestampMicros dx dy =>
      some { capture with
        motion := capture.motion.send (some (source, { sequence, timestampMicros, dx, dy })) }

/-- No thread holds the sending ends any more. -/
def AllEnded (capture : Capture devices) : Prop := ∀ source, capture.threads source = .ended

instance (capture : Capture devices) : Decidable capture.AllEnded :=
  inferInstanceAs (Decidable (∀ source, capture.threads source = .ended))

def step : Machine.Step (Capture devices) (CaptureInput devices) CaptureOutput Unit
  | capture, .poll source =>
      match capture.threads source with
      | .polling =>
          if capture.stopped then .err () else .ok ([], capture.placing source .fetching)
      | _ => .err ()
  | capture, .fetch source events =>
      match capture.threads source with
      | .fetching => .ok ([], capture.placing source (.running { events, dx := 0, dy := 0 }))
      | _ => .err ()
  | capture, .advance source timestampMicros =>
      match capture.threads source with
      | .running batch =>
          let (thread, sequence) := look source capture.sequence timestampMicros batch
          .ok ([], { capture with sequence }.placing source thread)
      | _ => .err ()
  | capture, .call source =>
      match capture.threads source with
      | .calling event batch =>
          match capture.callback event with
          | some after => .ok ([.called event], after.placing source (.running batch))
          | none => .err ()
      | _ => .err ()
  | capture, .leave source =>
      match capture.threads source with
      | .polling =>
          if capture.stopped then .ok ([], capture.placing source .ended) else .err ()
      | .fetching => .ok ([], capture.placing source .ended)
      | _ => .err ()
  | capture, .receive =>
      if capture.stopped then
        .err ()
      else
        match capture.reliable.receive with
        | some (captured, reliable) => .ok ([.captured captured], { capture with reliable })
        | none =>
            if capture.AllEnded then
              .ok ([.failed "all input capture threads stopped"], capture)
            else
              .err ()
  | capture, .receiveMotion =>
      if capture.stopped then
        .err ()
      else
        match capture.motion.receive with
        | some (some (source, moved), motion) =>
            .ok ([.moved source moved], { capture with motion })
        | some (none, motion) => .ok ([], { capture with motion })
        | none =>
            if capture.AllEnded then
              .ok ([.failed "all pointer capture threads stopped"], capture)
            else
              .err ()
  | capture, .stop => .ok ([], { capture with stopped := true })

/-! ## What an input does -/

variable {capture next : Capture devices} {input : CaptureInput devices}
  {outputs : List CaptureOutput} {source other : Fin devices}

@[simp]
theorem placing_threads_self {thread : CaptureThread} :
    (capture.placing source thread).threads source = thread :=
  Function.update_self ..

theorem placing_threads_of_ne {thread : CaptureThread} (different : other ≠ source) :
    (capture.placing source thread).threads other = capture.threads other :=
  Function.update_of_ne different ..

/-- What a callback does to the rest of the capture. -/
inductive CallsBack (capture : Capture devices) : NativeCapturedEvent → Capture devices → Prop
  | ignored {event : NativeCapturedEvent} {source sequence eventType code : Nat} {value : Int}
      (native : event = .input source sequence eventType code value)
      (none : event.reliable = none) :
      CallsBack capture event capture
  | dropped {event : NativeCapturedEvent} {captured : ReliableCapture}
      (some : event.reliable = some captured) (stopped : capture.stopped = true) :
      CallsBack capture event capture
  | sent {event : NativeCapturedEvent} {captured : ReliableCapture}
      {reliable : Channel ReliableCapture 256} (some : event.reliable = some captured)
      (going : capture.stopped = false)
      (sent : capture.reliable.send captured = .some reliable) :
      CallsBack capture event { capture with reliable }
  | moved {source sequence timestampMicros : Nat} {dx dy : Int} :
      CallsBack capture (.motion source sequence timestampMicros dx dy)
        { capture with
          motion := capture.motion.send (some (source, { sequence, timestampMicros, dx, dy })) }

theorem callback_callsBack {event : NativeCapturedEvent}
    (called : capture.callback event = some next) : capture.CallsBack event next := by
  cases event with
  | input source sequence eventType code value =>
      simp only [callback] at called
      split at called
      · rename_i captured decoded
        split_ifs at called with stopped
        · obtain rfl := Option.some.inj called
          exact .dropped decoded stopped
        · obtain ⟨reliable, sent, rfl⟩ := Option.map_eq_some_iff.mp called
          exact .sent decoded (by simpa using stopped) sent
      · rename_i ignored
        obtain rfl := Option.some.inj called
        exact .ignored rfl ignored
  | motion source sequence timestampMicros dx dy =>
      obtain rfl := Option.some.inj called
      exact .moved

inductive Steps (capture : Capture devices) :
    CaptureInput devices → List CaptureOutput → Capture devices → Prop
  | polled {source : Fin devices} (polling : capture.threads source = .polling)
      (going : capture.stopped = false) :
      Steps capture (.poll source) [] (capture.placing source .fetching)
  | fetched {source : Fin devices} {events : List RawEvent}
      (fetching : capture.threads source = .fetching) :
      Steps capture (.fetch source events) []
        (capture.placing source (.running { events, dx := 0, dy := 0 }))
  | advanced {source : Fin devices} {timestampMicros sequence : Nat} {batch : Batch}
      {thread : CaptureThread} (running : capture.threads source = .running batch)
      (looked : look source capture.sequence timestampMicros batch = (thread, sequence)) :
      Steps capture (.advance source timestampMicros) []
        ({ capture with sequence }.placing source thread)
  | called {source : Fin devices} {event : NativeCapturedEvent} {batch : Batch}
      {after : Capture devices} (calling : capture.threads source = .calling event batch)
      (callsBack : capture.CallsBack event after) :
      Steps capture (.call source) [.called event] (after.placing source (.running batch))
  | left {source : Fin devices}
      (idle : capture.threads source = .polling ∨ capture.threads source = .fetching) :
      Steps capture (.leave source) [] (capture.placing source .ended)
  | received {captured : ReliableCapture} {reliable : Channel ReliableCapture 256}
      (received : capture.reliable.receive = some (captured, reliable)) :
      Steps capture .receive [.captured captured] { capture with reliable }
  | receivedMotion {source : Nat} {moved : Motion} {motion : Watch (Option (Nat × Motion))}
      (received : capture.motion.receive = some (some (source, moved), motion)) :
      Steps capture .receiveMotion [.moved source moved] { capture with motion }
  | receivedNone {motion : Watch (Option (Nat × Motion))}
      (received : capture.motion.receive = some (none, motion)) :
      Steps capture .receiveMotion [] { capture with motion }
  | failed {input : CaptureInput devices} {message : String}
      (reading : input = .receive ∨ input = .receiveMotion) :
      Steps capture input [.failed message] capture
  | stopped : Steps capture .stop [] { capture with stopped := true }

theorem step_steps (stepped : capture.step input = .ok (outputs, next)) :
    capture.Steps input outputs next := by
  cases input with
  | poll source =>
      simp only [step] at stepped
      split at stepped
      · rename_i polling
        split_ifs at stepped with stopped
        obtain ⟨rfl, rfl⟩ := Prod.mk.inj (Outcome.ok.inj stepped)
        exact .polled polling (by simpa using stopped)
      · cases stepped
  | fetch source events =>
      simp only [step] at stepped
      split at stepped
      · obtain ⟨rfl, rfl⟩ := Prod.mk.inj (Outcome.ok.inj stepped)
        exact .fetched ‹_›
      · cases stepped
  | advance source timestampMicros =>
      simp only [step] at stepped
      split at stepped
      · rename_i batch running
        obtain ⟨rfl, rfl⟩ := Prod.mk.inj (Outcome.ok.inj stepped)
        exact .advanced running rfl
      · cases stepped
  | call source =>
      simp only [step] at stepped
      split at stepped
      · rename_i event batch calling
        split at stepped
        · rename_i after called
          obtain ⟨rfl, rfl⟩ := Prod.mk.inj (Outcome.ok.inj stepped)
          exact .called calling (callback_callsBack called)
        · cases stepped
      · cases stepped
  | leave source =>
      simp only [step] at stepped
      split at stepped
      · split_ifs at stepped
        obtain ⟨rfl, rfl⟩ := Prod.mk.inj (Outcome.ok.inj stepped)
        exact .left (Or.inl ‹_›)
      · obtain ⟨rfl, rfl⟩ := Prod.mk.inj (Outcome.ok.inj stepped)
        exact .left (Or.inr ‹_›)
      · cases stepped
  | receive =>
      simp only [step] at stepped
      split at stepped
      · cases stepped
      · split at stepped
        · obtain ⟨rfl, rfl⟩ := Prod.mk.inj (Outcome.ok.inj stepped)
          exact .received ‹_›
        · split_ifs at stepped
          obtain ⟨rfl, rfl⟩ := Prod.mk.inj (Outcome.ok.inj stepped)
          exact .failed (Or.inl rfl)
  | receiveMotion =>
      simp only [step] at stepped
      split at stepped
      · cases stepped
      · split at stepped
        · obtain ⟨rfl, rfl⟩ := Prod.mk.inj (Outcome.ok.inj stepped)
          exact .receivedMotion ‹_›
        · obtain ⟨rfl, rfl⟩ := Prod.mk.inj (Outcome.ok.inj stepped)
          exact .receivedNone ‹_›
        · split_ifs at stepped
          obtain ⟨rfl, rfl⟩ := Prod.mk.inj (Outcome.ok.inj stepped)
          exact .failed (Or.inr rfl)
  | stop =>
      obtain ⟨rfl, rfl⟩ := Prod.mk.inj (Outcome.ok.inj stepped)
      exact .stopped

end Capture
end Rflow
