import Rflow.Core.Input
import Rflow.Core.Layout

/-!
# Wire messages and input codes

The messages of the reliable stream, the conversion of input events to and from their wire form, and
the conversion of the codes that the platform captures and injects.  Event types and codes are `u16`
values, wire values are `i32`.
-/

namespace Rflow

open Foundation

def protocolVersion : Nat := 3

def maxReliableFrame : Nat := 64 * 1024

structure MotionDto where
  sequence : Nat
  timestampMicros : Nat
  dx : Int
  dy : Int
  deriving DecidableEq, Repr

def MotionDto.ofMotion (motion : Motion) : MotionDto where
  sequence := motion.sequence
  timestampMicros := motion.timestampMicros
  dx := motion.dx
  dy := motion.dy

def MotionDto.toMotion (dto : MotionDto) : Motion where
  sequence := dto.sequence
  timestampMicros := dto.timestampMicros
  dx := dto.dx
  dy := dto.dy

structure WireScreenDescriptor where
  stableId : String
  name : String
  width : Int
  height : Int
  primary : Bool
  deriving DecidableEq, Repr

inductive ReliableEvent where
  | hello (version : Nat) (screens : List WireScreenDescriptor)
  | clientHello (version : Nat) (screens : List WireScreenDescriptor)
  | screenInventory (screens : List WireScreenDescriptor)
  | enterScreen (x y : Int)
  | input (sequence eventType code : Nat) (value : Int)
  | heartbeat (sequence : Nat)
  | releaseAll
  deriving DecidableEq, Repr

inductive InputConversionError where
  | notInput
  | unsupportedEventType (value : Nat)
  | unsupportedRelativeAxis (value : Nat)
  | combinedScroll
  deriving DecidableEq, Repr

/-! ## Codes of the wire -/

def encodeState : ButtonState → Int
  | .pressed => 1
  | .released => 0
  | .repeated => 2

def decodeState (value : Int) : ButtonState :=
  if value = 0 then .released else if value = 2 then .repeated else .pressed

def encodeButton : Button → Nat
  | .left => 272
  | .right => 273
  | .middle => 274
  | .back => 275
  | .forward => 276
  | .other code => code

def decodeButton (code : Nat) : Button :=
  match code with
  | 272 => .left
  | 273 => .right
  | 274 => .middle
  | 275 => .back
  | 276 => .forward
  | code => .other code

/-- The codes that stand for buttons rather than keys. -/
def isButtonCode (code : Nat) : Bool := 272 ≤ code && code ≤ 287

@[simp]
theorem decodeState_encodeState (state : ButtonState) :
    decodeState (encodeState state) = state := by
  cases state <;> rfl

@[simp]
theorem encodeButton_decodeButton (code : Nat) : encodeButton (decodeButton code) = code := by
  unfold decodeButton
  split <;> rfl

/-! ## Input events on the wire -/

def encodeInput (sequence : Nat) : InputEvent → Outcome InputConversionError ReliableEvent
  | .key key state => .ok (.input sequence 1 key.code (encodeState state))
  | .button button state => .ok (.input sequence 1 (encodeButton button) (encodeState state))
  | .scroll horizontal vertical =>
      if horizontal = 0 then
        .ok (.input sequence 2 8 vertical)
      else if vertical = 0 then
        .ok (.input sequence 2 6 horizontal)
      else
        .err .combinedScroll

/-- A key or button event from its wire code. -/
def decodeKeyOrButton (code : Nat) (value : Int) : InputEvent :=
  if isButtonCode code then
    .button (decodeButton code) (decodeState value)
  else
    .key ⟨code⟩ (decodeState value)

def decodeInput : ReliableEvent → Outcome InputConversionError InputEvent
  | .input _ eventType code value =>
      match eventType with
      | 1 => .ok (decodeKeyOrButton code value)
      | 2 =>
          if code = 6 then
            .ok (.scroll value 0)
          else if code = 8 then
            .ok (.scroll 0 value)
          else
            .err (.unsupportedRelativeAxis code)
      | other => .err (.unsupportedEventType other)
  | _ => .err .notInput

/-! ## Input events on the platform -/

namespace Platform

def decodeState (value : Int) : ButtonState :=
  if value = 0 then .released else if value = 2 then .repeated else .pressed

def encodeState : ButtonState → Int
  | .pressed => 1
  | .released => 0
  | .repeated => 2

def decodeButton (code : Nat) : Button :=
  match code with
  | 272 => .left
  | 273 => .right
  | 274 => .middle
  | 275 => .back
  | 276 => .forward
  | code => .other code

def encodeButton : Button → Nat
  | .left => 272
  | .right => 273
  | .middle => 274
  | .back => 275
  | .forward => 276
  | .other code => code

end Platform

def decodeNativeInput (eventType code : Nat) (value : Int) : Outcome String InputEvent :=
  match eventType, code with
  | 1, code =>
      if isButtonCode code then
        .ok (.button (Platform.decodeButton code) (Platform.decodeState value))
      else
        .ok (.key ⟨code⟩ (Platform.decodeState value))
  | 2, 6 => .ok (.scroll value 0)
  | 2, 8 => .ok (.scroll 0 value)
  | eventType, code =>
      .err ("unsupported native input type=" ++ toString eventType ++ " code=" ++ toString code)

def encodeNativeInput : InputEvent → List (Nat × Nat × Int)
  | .key key state => [(1, key.code, Platform.encodeState state)]
  | .button button state => [(1, Platform.encodeButton button, Platform.encodeState state)]
  | .scroll horizontal vertical =>
      (if horizontal ≠ 0 then [(2, 6, horizontal)] else []) ++
        (if vertical ≠ 0 then [(2, 8, vertical)] else [])

/-- What the platform captures: a key or button, as its code and value stand for one on the wire, or
a scroll along one axis. -/
theorem decodeNativeInput_cases {eventType code : Nat} {value : Int} {event : InputEvent}
    (decoded : decodeNativeInput eventType code value = .ok event) :
    (eventType = 1 ∧ event = decodeKeyOrButton code value) ∨
      (eventType = 2 ∧ code = 6 ∧ event = .scroll value 0) ∨
      (eventType = 2 ∧ code = 8 ∧ event = .scroll 0 value) := by
  -- The tables of the platform agree with those of the wire.
  have buttons (code : Nat) : Platform.decodeButton code = decodeButton code := rfl
  have states : Platform.decodeState value = decodeState value := rfl
  unfold decodeNativeInput at decoded
  split at decoded
  · refine Or.inl ⟨rfl, ?_⟩
    rw [decodeKeyOrButton, ← buttons, ← states]
    split_ifs at decoded ⊢
    · exact (Outcome.ok.inj decoded).symm
    · exact (Outcome.ok.inj decoded).symm
  · exact Or.inr (Or.inl ⟨rfl, rfl, (Outcome.ok.inj decoded).symm⟩)
  · exact Or.inr (Or.inr ⟨rfl, rfl, (Outcome.ok.inj decoded).symm⟩)
  · cases decoded

/-- A key or button that has a code of its own kind on the wire. -/
def HeldInput.Native : HeldInput → Prop
  | .key pressed => isButtonCode pressed.code = false
  | .button pressed =>
      isButtonCode (encodeButton pressed) = true ∧ decodeButton (encodeButton pressed) = pressed

/-- An event that the platform can have captured. -/
def InputEvent.Native : InputEvent → Prop
  | .key pressed _ => HeldInput.Native (.key pressed)
  | .button pressed _ => HeldInput.Native (.button pressed)
  | .scroll horizontal vertical => horizontal = 0 ∨ vertical = 0

theorem HeldInput.Native.event {item : HeldInput} (native : item.Native) (state : ButtonState) :
    (item.event state).Native := by
  cases item <;> exact native

theorem InputEvent.Native.held {event : InputEvent} (native : event.Native) {item : HeldInput}
    (holds : event.held = some item) : item.Native := by
  cases event with
  | key key state =>
      obtain rfl := Option.some.inj holds
      exact native
  | button button state =>
      obtain rfl := Option.some.inj holds
      exact native
  | scroll horizontal vertical => cases holds

theorem decodeKeyOrButton_native (code : Nat) (value : Int) :
    (decodeKeyOrButton code value).Native := by
  unfold decodeKeyOrButton
  split_ifs with isButton
  · exact ⟨by simpa using isButton, by simp⟩
  · simpa [InputEvent.Native, HeldInput.Native] using isButton

/-- Every captured event is native. -/
theorem decodeNativeInput_native {eventType code : Nat} {value : Int} {event : InputEvent}
    (decoded : decodeNativeInput eventType code value = .ok event) : event.Native := by
  obtain ⟨_, rfl⟩ | ⟨_, _, rfl⟩ | ⟨_, _, rfl⟩ := decodeNativeInput_cases decoded
  · exact decodeKeyOrButton_native _ _
  · exact Or.inr rfl
  · exact Or.inl rfl

/-- A native event survives the wire. -/
theorem decodeInput_encodeInput {event : InputEvent} (native : event.Native) (sequence : Nat) :
    ∃ frame, encodeInput sequence event = .ok frame ∧ decodeInput frame = .ok event := by
  cases event with
  | key key state =>
      have notButton : isButtonCode key.code = false := native
      exact ⟨_, rfl, by simp [decodeInput, decodeKeyOrButton, notButton]⟩
  | button button state =>
      obtain ⟨isButton, roundTrip⟩ : isButtonCode (encodeButton button) = true ∧
          decodeButton (encodeButton button) = button := native
      exact ⟨_, rfl, by simp [decodeInput, decodeKeyOrButton, isButton, roundTrip]⟩
  | scroll horizontal vertical =>
      simp only [encodeInput]
      split_ifs with noHorizontal noVertical
      · exact ⟨_, rfl, by simp [decodeInput, noHorizontal]⟩
      · exact ⟨_, rfl, by simp [decodeInput, noVertical]⟩
      · exact (native.elim noHorizontal noVertical).elim

/-! ## Captured input -/

/-- A state on the platform: released, repeated, or pressed for every other value. -/
def normalizedState (value : Int) : Int := if value = 0 ∨ value = 1 ∨ value = 2 then value else 1

/-- What is injected for a captured triple. -/
def injectedInput (eventType code : Nat) (value : Int) : List (Nat × Nat × Int) :=
  if eventType = 1 then [(eventType, code, normalizedState value)]
  else if value = 0 then []
  else [(eventType, code, value)]

theorem encodeState_decodeState (value : Int) :
    Platform.encodeState (decodeState value) = normalizedState value := by
  unfold decodeState normalizedState
  split_ifs <;> simp_all [Platform.encodeState]

theorem encodeNativeInput_decodeKeyOrButton (code : Nat) (value : Int) :
    encodeNativeInput (decodeKeyOrButton code value) = [(1, code, normalizedState value)] := by
  have buttons (button : Button) : Platform.encodeButton button = encodeButton button := rfl
  unfold decodeKeyOrButton
  split_ifs
  · simp only [encodeNativeInput, buttons, encodeButton_decodeButton, encodeState_decodeState]
  · simp only [encodeNativeInput, encodeState_decodeState]

/-- Whatever is captured survives the wire and is injected as it was captured, with the states of
keys and buttons normalised and without scrolls by nothing. -/
theorem captured_input_survives {eventType code : Nat} {value : Int} {event : InputEvent}
    (decoded : decodeNativeInput eventType code value = .ok event) (sequence : Nat) :
    ∃ frame, encodeInput sequence event = .ok frame ∧ decodeInput frame = .ok event ∧
      encodeNativeInput event = injectedInput eventType code value := by
  obtain ⟨frame, encoded, received⟩ :=
    decodeInput_encodeInput (decodeNativeInput_native decoded) sequence
  refine ⟨frame, encoded, received, ?_⟩
  obtain ⟨rfl, rfl⟩ | ⟨rfl, rfl, rfl⟩ | ⟨rfl, rfl, rfl⟩ := decodeNativeInput_cases decoded
  · exact encodeNativeInput_decodeKeyOrButton code value
  · by_cases nothing : value = 0 <;> simp [encodeNativeInput, injectedInput, nothing]
  · by_cases nothing : value = 0 <;> simp [encodeNativeInput, injectedInput, nothing]

/-- An unknown state of a button above the named ones is a press. -/
theorem captured_input_survives_otherButton :
    ∃ frame, encodeInput 7 (.button (.other 280) .pressed) = .ok frame ∧
      decodeInput frame = .ok (.button (.other 280) .pressed) ∧
      encodeNativeInput (.button (.other 280) .pressed) = [(1, 280, 1)] := by
  have injected : injectedInput 1 280 (-5) = [(1, 280, 1)] := by decide
  rw [← injected]
  exact captured_input_survives rfl 7

end Rflow
