import Rflow.Input.MacosInjector

/-!
# Input from one macOS machine to another

What the capture of one machine makes of an event goes over the wire as an input event, and the
injector of the other machine posts it.  The event that is posted is the one that was captured.
-/

namespace Rflow

open Foundation

namespace Macos

/-- What the client hands its injector for an input that the server sends under a number. -/
def forwarded (sequence : Nat) (event : InputEvent) : List (Nat × Nat × Int) :=
  match encodeInput sequence event with
  | .ok frame =>
      match decodeInput frame with
      | .ok received => encodeNativeInput received
      | _ => []
  | _ => []

/-- What the client hands its injector for the keys, buttons and scrolls that are captured, if the
server has last sent the given number. -/
def forwardedAll : Nat → List NativeCapturedEvent → List (Nat × Nat × Int)
  | _, [] => []
  | sequence, captured :: rest =>
      match captured.reliable with
      | some input => forwarded (wrappingSucc sequence) input.event ++
          forwardedAll (wrappingSucc sequence) rest
      | none => forwardedAll sequence rest

/-- What is captured of events, each at its time. -/
def capturedRun : CaptureContext → List (Nat × CgEvent) → List NativeCapturedEvent
  | _, [] => []
  | context, (timestampMicros, event) :: events =>
      let (captured, next) := context.handleCapturedEvent timestampMicros event
      captured ++ capturedRun next events

/-- The calls of an injector whose system tells the position of the pointer and creates events. -/
def injectorInputs (natives : List (Nat × Nat × Int)) : List InjectorInput :=
  natives.map fun native => ⟨⟨true, true⟩, .emitRaw native.1 native.2.1 native.2.2⟩

def InjectorOutput.posting : InjectorOutput → Option Posting
  | .posted event => some event.posting
  | _ => none

/-- The postings that an event of a key, a button or a scroll stands for. -/
def CgEvent.postings (event : CgEvent) : List Posting :=
  match event.eventType with
  | eventLeftDown | eventLeftUp => [.mouse event.eventType 0]
  | eventRightDown | eventRightUp => [.mouse event.eventType 1]
  | eventOtherDown | eventOtherUp =>
      if 2 ≤ event.field 3 ∧ event.field 3 ≤ 4 then
        [.mouse event.eventType (event.field 3).toNat]
      else
        []
  | eventKeyDown | eventKeyUp =>
      if (macosKeyToLinux (asU16 (event.field 9))).isSome then
        [.keyboard (asU16 (event.field 9)) (event.eventType = eventKeyDown)]
      else
        []
  | eventFlagsChanged =>
      if (macosKeyToLinux (asU16 (event.field 9))).isSome then
        [.keyboard (asU16 (event.field 9))
          ((modifierFlag (asU16 (event.field 9))).any fun flag => event.flags &&& flag ≠ 0)]
      else
        []
  | eventScroll =>
      -- Each axis is posted on its own, the vertical one first.
      (if asI32 (event.field 11) ≠ 0 then
        [.scroll (setScrollAxis (asI32 (event.field 11)) 11 93 96 ++ setScrollAxis 0 12 94 97)]
      else []) ++
        if asI32 (event.field 12) ≠ 0 then
          [.scroll (setScrollAxis 0 11 93 96 ++ setScrollAxis (asI32 (event.field 12)) 12 94 97)]
        else []
  | _ => []

/-! ## On the way -/

theorem forwardedAll_append (sequence : Nat) (front back : List NativeCapturedEvent) :
    ∃ reached, forwardedAll sequence (front ++ back) =
      forwardedAll sequence front ++ forwardedAll reached back := by
  induction front generalizing sequence with
  | nil => exact ⟨sequence, rfl⟩
  | cons captured front induction =>
      simp only [List.cons_append, forwardedAll]
      cases captured.reliable with
      | none => exact induction sequence
      | some input =>
          obtain ⟨reached, onward⟩ := induction (wrappingSucc sequence)
          exact ⟨reached, by simp only [onward, List.append_assoc]⟩

/-- A native input arrives as its code and value if it is decoded to an event that stands for
them. -/
theorem forwardedAll_input {eventType code : Nat} {value : Int} {event : InputEvent}
    (decoded : decodeNativeInput eventType code value = .ok event)
    (stands : encodeNativeInput event = [(eventType, code, value)]) (sequence number : Nat) :
    forwardedAll sequence [.input 0 number eventType code value] = [(eventType, code, value)] := by
  obtain ⟨frame, encoded, received⟩ :=
    decodeInput_encodeInput (decodeNativeInput_native decoded) (wrappingSucc sequence)
  simp [forwardedAll, NativeCapturedEvent.reliable, decoded, forwarded, encoded, received, stands]

theorem decodeNativeInput_key (code : Nat) (value : Int) :
    decodeNativeInput 1 code value = .ok (decodeKeyOrButton code value) := by
  simp only [decodeNativeInput, decodeKeyOrButton]
  split_ifs <;> rfl

/-! ## At the injector -/

/-- The injector posts these, whatever it has been told before. -/
def Posts (inputs : List InjectorInput) (postings : List Posting) : Prop :=
  ∀ injector : Injector, ∃ outputs next, Machine.run Injector.step injector inputs =
    .ok (outputs, next) ∧ outputs.map InjectorOutput.posting = postings.map some

theorem Posts.nil : Posts [] [] := fun injector => ⟨[], injector, rfl, rfl⟩

theorem Posts.append {front back : List InjectorInput} {first rest : List Posting}
    (before : Posts front first) (after : Posts back rest) :
    Posts (front ++ back) (first ++ rest) := by
  intro injector
  obtain ⟨outputs, middle, ran, posted⟩ := before injector
  obtain ⟨more, next, onward, onwardPosted⟩ := after middle
  refine ⟨outputs ++ more, next, Machine.run_append_eq_ok.mpr ⟨_, _, _, ran, onward, rfl⟩, ?_⟩
  rw [List.map_append, List.map_append, posted, onwardPosted]

theorem Posts.single {input : InjectorInput} {posting : Posting}
    (posts : ∀ injector : Injector, (injector.respond input).1.posting = some posting) :
    Posts [input] [posting] := by
  intro injector
  exact ⟨_, _, Machine.run_singleton_eq_ok.mpr rfl, by simp [posts injector]⟩

theorem posts_key {code keycode : Nat} (value : Int) (isKey : mouseButton code = none)
    (mapped : linuxKeyToMacos code = some keycode) :
    Posts [⟨⟨true, true⟩, .emitRaw 1 code value⟩] [.keyboard keycode (value ≠ 0)] :=
  Posts.single fun injector => by
    simp [Injector.respond, Injector.emitRaw, Injector.emitKey, isKey, mapped, Injector.post,
      InjectorOutput.posting]

theorem posts_button {code down up button : Nat} (value : Int)
    (isButton : mouseButton code = some (down, up, button)) :
    Posts [⟨⟨true, true⟩, .emitRaw 1 code value⟩]
      [.mouse (if value = 0 then up else down) button] :=
  Posts.single fun injector => by
    simp [Injector.respond, Injector.emitRaw, Injector.emitKey, isButton, Injector.postMouse,
      Injector.post, InjectorOutput.posting]

theorem posts_vertical (value : Int) :
    Posts [⟨⟨true, true⟩, .emitRaw 2 8 value⟩]
      [.scroll (setScrollAxis value 11 93 96 ++ setScrollAxis 0 12 94 97)] :=
  Posts.single fun _ => rfl

theorem posts_horizontal (value : Int) :
    Posts [⟨⟨true, true⟩, .emitRaw 2 6 value⟩]
      [.scroll (setScrollAxis 0 11 93 96 ++ setScrollAxis value 12 94 97)] :=
  Posts.single fun _ => rfl

/-! ## From one machine to the other -/

/-- What is captured is posted, whatever has been sent before. -/
def Mirrors (captured : List NativeCapturedEvent) (postings : List Posting) : Prop :=
  ∀ sequence, Posts (injectorInputs (forwardedAll sequence captured)) postings

theorem Mirrors.nil : Mirrors [] [] := fun _ => Posts.nil

theorem Mirrors.append {front back : List NativeCapturedEvent} {first rest : List Posting}
    (before : Mirrors front first) (after : Mirrors back rest) :
    Mirrors (front ++ back) (first ++ rest) := by
  intro sequence
  obtain ⟨reached, joined⟩ := forwardedAll_append sequence front back
  rw [joined, injectorInputs, List.map_append]
  exact (before sequence).append (after reached)

theorem mirrors_motion (sequence timestampMicros : Nat) (dx dy : Int) :
    Mirrors [.motion 0 sequence timestampMicros dx dy] [] := fun _ => Posts.nil

variable (context : CaptureContext)

/-- A key or button that is captured is handed to the injector as it was captured. -/
theorem mirrors_sendKey {code : Nat} {value : Int} {posting : Posting}
    (normal : normalizedState value = value)
    (posts : Posts [⟨⟨true, true⟩, .emitRaw 1 code value⟩] [posting]) :
    Mirrors (context.sendKey code value).1 [posting] := by
  intro sequence
  have stands : encodeNativeInput (decodeKeyOrButton code value) = [(1, code, value)] := by
    rw [encodeNativeInput_decodeKeyOrButton, normal]
  rw [CaptureContext.sendKey, CaptureContext.sendReliable,
    forwardedAll_input (decodeNativeInput_key code value) stands]
  exact posts

theorem mouseButton_of_captured {macCode code : Nat} (found : macosKeyToLinux macCode = some code) :
    mouseButton code = none := by
  have whole : ∀ entry ∈ macosKeys, mouseButton entry.2 = none := by decide
  exact whole _ (macosKeyToLinux_eq_some found)

theorem mirrors_key_change (reporting : Nat → CaptureContext) (macCode : Nat) (value : Int)
    {down : Bool} (normal : normalizedState value = value) (isDown : decide (value ≠ 0) = down) :
    Mirrors
      (match macosKeyToLinux macCode with
      | some code => (reporting code).sendKey code value
      | none => ([], context)).1
      (if (macosKeyToLinux macCode).isSome then [.keyboard macCode down] else []) := by
  subst isDown
  cases found : macosKeyToLinux macCode with
  | none => exact Mirrors.nil
  | some code =>
      have posts := posts_key value (mouseButton_of_captured found)
        (linuxKeyToMacos_of_captured found)
      exact mirrors_sendKey (reporting code) normal posts

theorem mirrors_changeModifier (macCode flags : Nat) :
    Mirrors (context.changeModifier macCode flags).1
      (if (macosKeyToLinux macCode).isSome then
        [.keyboard macCode ((modifierFlag macCode).any fun flag => flags &&& flag ≠ 0)]
      else []) := by
  unfold CaptureContext.changeModifier
  cases down : (modifierFlag macCode).any fun flag => flags &&& flag ≠ 0
  · exact mirrors_key_change context
      (fun code => { context with modifiers := context.modifiers.erase code }) macCode 0 rfl rfl
  · exact mirrors_key_change context
      (fun code => { context with modifiers := insert code context.modifiers }) macCode 1 rfl rfl

theorem mirrors_button {code down up button : Nat} {value : Int}
    (normal : normalizedState value = value)
    (isButton : mouseButton code = some (down, up, button)) :
    Mirrors (context.sendKey code value).1 [.mouse (if value = 0 then up else down) button] :=
  mirrors_sendKey context normal (posts_button value isButton)

theorem mirrors_other_button (number : Int) (down : Bool) :
    Mirrors
      (match CaptureContext.otherButton number with
      | some button => context.sendKey button (if down then 1 else 0)
      | none => ([], context)).1
      (if 2 ≤ number ∧ number ≤ 4 then
        [.mouse (if down then eventOtherDown else eventOtherUp) number.toNat]
      else []) := by
  have normal : normalizedState (if down then 1 else 0) = if down then 1 else 0 := by
    cases down <;> rfl
  have event : (if (if down then 1 else 0 : Int) = 0 then 26 else 25) =
      if down then eventOtherDown else eventOtherUp := by cases down <;> rfl
  have posts {code button : Nat} (isButton : mouseButton code = some (25, 26, button)) :
      Mirrors (context.sendKey code (if down then 1 else 0)).1
        [.mouse (if down then eventOtherDown else eventOtherUp) button] :=
    event ▸ mirrors_button context normal isButton
  have cases : number = 2 ∨ number = 3 ∨ number = 4 ∨ ¬ (2 ≤ number ∧ number ≤ 4) := by omega
  obtain rfl | rfl | rfl | outside := cases
  · exact posts rfl
  · exact posts rfl
  · exact posts rfl
  · have none : CaptureContext.otherButton number = none := by
      unfold CaptureContext.otherButton
      split <;> first | rfl | omega
    rw [none, if_neg outside]
    exact Mirrors.nil

theorem mirrors_vertical (value : Int) :
    Mirrors (if value ≠ 0 then context.sendReliable 2 8 value else ([], context)).1
      (if value ≠ 0 then
        [.scroll (setScrollAxis value 11 93 96 ++ setScrollAxis 0 12 94 97)]
      else []) := by
  split_ifs with moves
  · intro sequence
    have stands : encodeNativeInput (.scroll 0 value) = [(2, 8, value)] := by
      simp [encodeNativeInput, moves]
    rw [CaptureContext.sendReliable, forwardedAll_input rfl stands]
    exact posts_vertical value
  · exact Mirrors.nil

theorem mirrors_horizontal (value : Int) :
    Mirrors (if value ≠ 0 then context.sendReliable 2 6 value else ([], context)).1
      (if value ≠ 0 then
        [.scroll (setScrollAxis 0 11 93 96 ++ setScrollAxis value 12 94 97)]
      else []) := by
  split_ifs with moves
  · intro sequence
    have stands : encodeNativeInput (.scroll value 0) = [(2, 6, value)] := by
      simp [encodeNativeInput, moves]
    rw [CaptureContext.sendReliable, forwardedAll_input rfl stands]
    exact posts_horizontal value
  · exact Mirrors.nil

theorem mirrors_captured_event (timestampMicros : Nat) (event : CgEvent) :
    Mirrors (context.handleCapturedEvent timestampMicros event).1 event.postings := by
  have motion (condition : Prop) [Decidable condition] {number : Nat} {dx dy : Int} :
      Mirrors (if condition then
        ([.motion 0 number timestampMicros dx dy], { context with sequence := number })
          else ([], context)).1 [] := by
    split_ifs
    · exact mirrors_motion _ _ _ _
    · exact Mirrors.nil
  obtain ⟨eventType, field, flags⟩ := event
  simp only [CaptureContext.handleCapturedEvent, CgEvent.postings]
  split
  · exact motion _
  · exact motion _
  · exact motion _
  · exact motion _
  · exact mirrors_button context rfl rfl
  · exact mirrors_button context rfl rfl
  · exact mirrors_button context rfl rfl
  · exact mirrors_button context rfl rfl
  · exact mirrors_other_button context (field 3) true
  · exact mirrors_other_button context (field 3) false
  · have normal :
        normalizedState (if field 8 ≠ 0 then 2 else 1) = if field 8 ≠ 0 then 2 else 1 := by
      split_ifs <;> rfl
    have isDown : decide ((if field 8 ≠ 0 then 2 else 1 : Int) ≠ 0) = true := by split_ifs <;> rfl
    exact mirrors_key_change context (fun _ => context) (asU16 (field 9)) _ normal isDown
  · exact mirrors_key_change context (fun _ => context) (asU16 (field 9)) 0 rfl rfl
  · exact mirrors_changeModifier context (asU16 (field 9)) flags
  · exact (mirrors_vertical context (asI32 (field 11))).append
      (mirrors_horizontal _ (asI32 (field 12)))
  · split
    all_goals first | exact Mirrors.nil | contradiction

/-- Whatever keys, buttons and scrolls are captured of a run of events are posted on the other
machine as those events, in order. -/
theorem captured_events_mirrored (events : List (Nat × CgEvent)) :
    Mirrors (capturedRun context events) (events.flatMap fun event => event.2.postings) := by
  induction events generalizing context with
  | nil => exact Mirrors.nil
  | cons event events induction =>
      exact (mirrors_captured_event context event.1 event.2).append (induction _)

end Macos
end Rflow
