import Rflow.Input.MacosInjector

/-!
# Captured modifiers of macOS

macOS reports a modifier key with the flags that are set afterwards, and keys on the left and on the
right share a flag.  The capture takes the key to be pressed if its flag is set.
-/

namespace Rflow

open Foundation

namespace Macos

/-- The flags of the modifier keys. -/
def sharedFlags : List Nat := [flagCapsLock, flagShift, flagControl, flagOption, flagCommand]

/-- The event of a modifier key that has changed: it names the key, and of the flags of modifier
keys it has those of the keys that are pressed now. -/
structure CgEvent.Reports (event : CgEvent) (pressed : Finset Nat) (macCode : Nat) : Prop where
  eventType : event.eventType = eventFlagsChanged
  key : event.field 9 = macCode
  flags : ∀ flag ∈ sharedFlags,
    (event.flags &&& flag ≠ 0 ↔ ∃ other ∈ pressed, modifierFlag other = some flag)

/-- An event of something else: modifier keys are reported by their flags alone. -/
def CgEvent.Unmodified (event : CgEvent) : Prop :=
  event.eventType ≠ eventFlagsChanged ∧
    (event.eventType = eventKeyDown ∨ event.eventType = eventKeyUp →
      modifierFlag (asU16 (event.field 9)) = none)

/-- The keys and buttons that are pressed according to what is captured. -/
def tell (told : Finset Nat) : NativeCapturedEvent → Finset Nat
  | .input _ _ 1 code value => if value = 0 then told.erase code else insert code told
  | _ => told

/-- A key of macOS is pressed according to what is captured. -/
def Tells (told : Finset Nat) (macCode : Nat) : Prop :=
  ∃ code ∈ told, linuxKeyToMacos code = some macCode

/-- A keyboard with its capture. -/
structure Keyboard where
  /-- The modifier keys that are pressed, with caps lock while it is on. -/
  pressed : Finset Nat
  context : CaptureContext
  told : Finset Nat
  deriving DecidableEq

inductive KeyboardInput where
  /-- A modifier key is pressed, or released if it was pressed, and there is an event for it. -/
  | toggle (macCode timestampMicros : Nat) (event : CgEvent)
  | event (timestampMicros : Nat) (event : CgEvent)

namespace Keyboard

def start : Keyboard := ⟨∅, ⟨0, ∅⟩, ∅⟩

def toggled (pressed : Finset Nat) (macCode : Nat) : Finset Nat :=
  if macCode ∈ pressed then pressed.erase macCode else insert macCode pressed

/-- The keyboard after an event that leaves these keys pressed. -/
def capture (keyboard : Keyboard) (pressed : Finset Nat) (timestampMicros : Nat) (event : CgEvent) :
    List NativeCapturedEvent × Keyboard :=
  let (captured, context) := keyboard.context.handleCapturedEvent timestampMicros event
  (captured, ⟨pressed, context, captured.foldl tell keyboard.told⟩)

def step : Machine.Step Keyboard KeyboardInput NativeCapturedEvent Unit
  | keyboard, .toggle macCode timestampMicros event =>
      .ok (keyboard.capture (toggled keyboard.pressed macCode) timestampMicros event)
  | keyboard, .event timestampMicros event =>
      .ok (keyboard.capture keyboard.pressed timestampMicros event)

/-- What is documented of the events of macOS. -/
def Reported (keyboard : Keyboard) : KeyboardInput → Prop
  | .toggle macCode _ event =>
      (modifierFlag macCode).isSome ∧ event.Reports (toggled keyboard.pressed macCode) macCode
  | .event _ event => event.Unmodified

/-- What is captured says of the modifier keys what is the case. -/
def Faithful (keyboard : Keyboard) : Prop :=
  ∀ macCode, (modifierFlag macCode).isSome →
    (macCode ∈ keyboard.pressed ↔ Tells keyboard.told macCode)

/-- The key is not the command key on the right, and it is not released while the other key of its
flag is pressed. -/
def Plain (keyboard : Keyboard) : KeyboardInput → Prop
  | .toggle macCode _ _ => macCode ≠ 54 ∧ (macCode ∈ keyboard.pressed →
      ∀ other ∈ keyboard.pressed, modifierFlag other = modifierFlag macCode → other = macCode)
  | .event .. => True

end Keyboard

/-! ## Flags -/

theorem modifierFlag_cases {macCode flag : Nat} (isFlag : modifierFlag macCode = some flag) :
    macCode ∈ [54, 55, 56, 57, 58, 59, 60, 61, 62] ∧ flag ∈ sharedFlags := by
  unfold modifierFlag at isFlag
  split at isFlag <;> cases isFlag <;> exact ⟨by decide, by decide⟩

theorem asU16_of_modifier {macCode : Nat} (modifier : (modifierFlag macCode).isSome) :
    asU16 macCode = macCode := by
  obtain ⟨flag, isFlag⟩ := Option.isSome_iff_exists.mp modifier
  have whole :
      ∀ macCode ∈ [54, 55, 56, 57, 58, 59, 60, 61, 62], asU16 (macCode : Nat) = macCode := by
    decide
  exact whole macCode (modifierFlag_cases isFlag).1

/-! ## Reports -/

/-- The key of Linux that a modifier key is captured as. -/
theorem macosKeyToLinux_of_modifier {macCode : Nat} (modifier : (modifierFlag macCode).isSome)
    (other : macCode ≠ 54) : ∃ code, macosKeyToLinux macCode = some code := by
  obtain ⟨flag, isFlag⟩ := Option.isSome_iff_exists.mp modifier
  obtain ⟨member, -⟩ := modifierFlag_cases isFlag
  have whole : ∀ macCode ∈ [54, 55, 56, 57, 58, 59, 60, 61, 62], macCode ≠ 54 →
      (macosKeyToLinux macCode).isSome := by decide
  exact Option.isSome_iff_exists.mp (whole macCode member other)

theorem tells_insert {told : Finset Nat} {macCode code : Nat}
    (found : macosKeyToLinux macCode = some code) (other : Nat) :
    Tells (insert code told) other ↔ other = macCode ∨ Tells told other := by
  have itself := linuxKeyToMacos_of_captured found
  simp only [Tells, Finset.mem_insert, or_and_right, exists_or, exists_eq_left, itself,
    Option.some.injEq, @eq_comm _ macCode other]

/-- No other key is captured as the same key as a modifier key. -/
theorem captured_of_injected {macCode code other : Nat} (modifier : (modifierFlag macCode).isSome)
    (found : macosKeyToLinux macCode = some code) (mapped : linuxKeyToMacos other = some macCode) :
    other = code := by
  have back := macosKeyToLinux_of_injected mapped
  rw [found] at back
  split_ifs at back with enter
  · -- The second enter key is captured as the first one, and neither is a modifier key.
    subst enter
    obtain rfl : 36 = macCode := Option.some.inj mapped
    cases modifier
  · exact (Option.some.inj back).symm

theorem tells_erase {told : Finset Nat} {macCode code : Nat}
    (modifier : (modifierFlag macCode).isSome) (found : macosKeyToLinux macCode = some code)
    (other : Nat) : Tells (told.erase code) other ↔ other ≠ macCode ∧ Tells told other := by
  constructor
  · rintro ⟨key, member, mapped⟩
    obtain ⟨apart, member⟩ := Finset.mem_erase.mp member
    refine ⟨?_, key, member, mapped⟩
    rintro rfl
    exact apart (captured_of_injected modifier found mapped)
  · rintro ⟨apart, key, member, mapped⟩
    refine ⟨key, Finset.mem_erase.mpr ⟨?_, member⟩, mapped⟩
    rintro rfl
    exact apart (Option.some.inj (mapped.symm.trans (linuxKeyToMacos_of_captured found)))

/-- The change of a modifier key is told by its flag. -/
theorem foldl_changeModifier (context : CaptureContext) {pressed : Finset Nat} {event : CgEvent}
    {macCode code flag : Nat} (reports : event.Reports pressed macCode)
    (isFlag : modifierFlag macCode = some flag) (found : macosKeyToLinux macCode = some code)
    (told : Finset Nat) :
    (context.changeModifier macCode event.flags).1.foldl tell told =
      if ∃ other ∈ pressed, modifierFlag other = some flag then insert code told
      else told.erase code := by
  simp only [← reports.flags flag (modifierFlag_cases isFlag).2, CaptureContext.changeModifier,
    found, isFlag, Option.any_some, decide_eq_true_eq]
  split_ifs <;> rfl

/-- A captured event that tells nothing about a modifier key. -/
def Neutral : NativeCapturedEvent → Prop
  | .input _ _ 1 code _ =>
      ∀ macCode, linuxKeyToMacos code = some macCode → modifierFlag macCode = none
  | _ => True

theorem tells_foldl {captured : List NativeCapturedEvent}
    (neutral : ∀ event ∈ captured, Neutral event) (told : Finset Nat) {macCode : Nat}
    (modifier : (modifierFlag macCode).isSome) :
    Tells (captured.foldl tell told) macCode ↔ Tells told macCode := by
  induction captured generalizing told with
  | nil => rfl
  | cons event captured induction =>
      have here := neutral event List.mem_cons_self
      rw [List.foldl_cons,
        induction fun event member => neutral event (List.mem_cons_of_mem _ member)]
      unfold tell
      split
      · rename_i code value
        have other (key : Nat) (mapped : linuxKeyToMacos key = some macCode) : key ≠ code := by
          rintro rfl
          rw [here macCode mapped] at modifier
          cases modifier
        split_ifs
        · refine exists_congr fun key => ?_
          rw [Finset.mem_erase]
          exact ⟨fun ⟨⟨_, member⟩, mapped⟩ => ⟨member, mapped⟩,
            fun ⟨member, mapped⟩ => ⟨⟨other key mapped, member⟩, mapped⟩⟩
        · refine exists_congr fun key => ?_
          rw [Finset.mem_insert]
          exact ⟨fun ⟨member, mapped⟩ => ⟨member.resolve_left (other key mapped), mapped⟩,
            fun ⟨member, mapped⟩ => ⟨Or.inr member, mapped⟩⟩
      · rfl

theorem neutral_sendKey (context : CaptureContext) {code : Nat} (value : Int)
    (neutral : ∀ macCode, linuxKeyToMacos code = some macCode → modifierFlag macCode = none) :
    ∀ event ∈ (context.sendKey code value).1, Neutral event := by
  simpa [CaptureContext.sendKey, CaptureContext.sendReliable, Neutral] using neutral

theorem neutral_button (context : CaptureContext) {code : Nat} (value : Int)
    (none : linuxKeyToMacos code = none) :
    ∀ event ∈ (context.sendKey code value).1, Neutral event :=
  neutral_sendKey context value fun macCode mapped => by cases none.symm.trans mapped

theorem neutral_key (context : CaptureContext) {macCode : Nat} (value : Int)
    (other : modifierFlag macCode = none) :
    ∀ event ∈ (match macosKeyToLinux macCode with
      | some code => context.sendKey code value
      | none => ([], context)).1, Neutral event := by
  cases found : macosKeyToLinux macCode with
  | none => exact List.forall_mem_nil _
  | some code =>
      refine neutral_sendKey context value fun key mapped => ?_
      obtain rfl := Option.some.inj ((linuxKeyToMacos_of_captured found).symm.trans mapped)
      exact other

/-- Events that are none of a modifier key tell nothing about them. -/
theorem neutral_handleCapturedEvent (context : CaptureContext) {timestampMicros : Nat}
    {event : CgEvent} (unmodified : event.Unmodified) :
    ∀ captured ∈ (context.handleCapturedEvent timestampMicros event).1, Neutral captured := by
  have motion (condition : Prop) [Decidable condition] {number : Nat} {dx dy : Int} :
      ∀ captured ∈ (if condition then
        ([.motion 0 number timestampMicros dx dy], { context with sequence := number })
          else ([], context)).1, Neutral captured := by
    split_ifs <;> simp [Neutral]
  have axis (context : CaptureContext) (code : Nat) (value : Int) :
      ∀ captured ∈ (if value ≠ 0 then context.sendReliable 2 code value else ([], context)).1,
        Neutral captured := by
    split_ifs <;> simp [CaptureContext.sendReliable, Neutral]
  have button (number value : Int) :
      ∀ captured ∈ (match CaptureContext.otherButton number with
        | some button => context.sendKey button value
        | none => ([], context)).1, Neutral captured := by
    unfold CaptureContext.otherButton
    split
    · rename_i found
      split at found <;> cases found <;> exact neutral_button context value rfl
    · exact List.forall_mem_nil _
  obtain ⟨eventType, field, flags⟩ := event
  obtain ⟨notFlags, keys⟩ := unmodified
  simp only [CaptureContext.handleCapturedEvent]
  split
  · exact motion _
  · exact motion _
  · exact motion _
  · exact motion _
  · exact neutral_button context 1 rfl
  · exact neutral_button context 0 rfl
  · exact neutral_button context 1 rfl
  · exact neutral_button context 0 rfl
  · exact button (field 3) _
  · exact button (field 3) _
  · exact neutral_key context _ (keys (Or.inl rfl))
  · exact neutral_key context _ (keys (Or.inr rfl))
  · exact absurd rfl notFlags
  · exact List.forall_mem_append.mpr ⟨axis context 8 _, axis _ 6 _⟩
  · exact List.forall_mem_nil _

namespace Keyboard

variable {keyboard next : Keyboard} {input : KeyboardInput} {captured : List NativeCapturedEvent}

theorem mem_toggled {pressed : Finset Nat} {macCode other : Nat} :
    other ∈ toggled pressed macCode ↔
      if other = macCode then macCode ∉ pressed else other ∈ pressed := by
  unfold toggled
  split_ifs <;> simp_all

variable {macCode timestampMicros : Nat} {event : CgEvent}

theorem capture_toggle (modifier : (modifierFlag macCode).isSome)
    (reports : event.Reports (toggled keyboard.pressed macCode) macCode) :
    step keyboard (.toggle macCode timestampMicros event) =
      .ok ((keyboard.context.changeModifier macCode event.flags).1,
        ⟨toggled keyboard.pressed macCode,
          (keyboard.context.changeModifier macCode event.flags).2,
          (keyboard.context.changeModifier macCode event.flags).1.foldl tell keyboard.told⟩) := by
  have handled : keyboard.context.handleCapturedEvent timestampMicros event =
      keyboard.context.changeModifier macCode event.flags := by
    obtain ⟨eventType, field, flags⟩ := event
    obtain rfl : eventType = eventFlagsChanged := reports.eventType
    have key : field 9 = macCode := reports.key
    change keyboard.context.changeModifier (asU16 (field 9)) flags = _
    rw [key, asU16_of_modifier modifier]
  simp only [step, capture, handled]

/-- What a modifier key other than the command key on the right tells when it changes. -/
theorem tells_toggle (reported : keyboard.Reported (.toggle macCode timestampMicros event))
    (left : macCode ≠ 54)
    (stepped : step keyboard (.toggle macCode timestampMicros event) = .ok (captured, next))
    (other : Nat) :
    Tells next.told other ↔
      if ∃ key ∈ toggled keyboard.pressed macCode, modifierFlag key = modifierFlag macCode then
        other = macCode ∨ Tells keyboard.told other
      else other ≠ macCode ∧ Tells keyboard.told other := by
  obtain ⟨modifier, reports⟩ := reported
  obtain ⟨code, found⟩ := macosKeyToLinux_of_modifier modifier left
  obtain ⟨flag, isFlag⟩ := Option.isSome_iff_exists.mp modifier
  rw [capture_toggle modifier reports] at stepped
  obtain ⟨-, rfl⟩ := Prod.mk.inj (Outcome.ok.inj stepped)
  simp only [foldl_changeModifier keyboard.context reports isFlag found, isFlag]
  split_ifs
  · exact tells_insert found other
  · exact tells_erase modifier found other

/-- The command key on the right tells nothing. -/
theorem told_toggle_right (reported : keyboard.Reported (.toggle 54 timestampMicros event))
    (stepped : step keyboard (.toggle 54 timestampMicros event) = .ok (captured, next)) :
    next.told = keyboard.told := by
  rw [capture_toggle reported.1 reported.2] at stepped
  obtain ⟨-, rfl⟩ := Prod.mk.inj (Outcome.ok.inj stepped)
  rfl

theorem tells_event (unmodified : event.Unmodified)
    (stepped : step keyboard (.event timestampMicros event) = .ok (captured, next))
    (modifier : (modifierFlag macCode).isSome) :
    Tells next.told macCode ↔ Tells keyboard.told macCode := by
  obtain ⟨-, rfl⟩ := Prod.mk.inj (Outcome.ok.inj stepped)
  exact tells_foldl (neutral_handleCapturedEvent keyboard.context unmodified) keyboard.told modifier

/-- The command key on the right is never told to be pressed. -/
theorem step_silent (silent : ¬ Tells keyboard.told 54) (reported : keyboard.Reported input)
    (stepped : step keyboard input = .ok (captured, next)) : ¬ Tells next.told 54 := by
  cases input with
  | event timestampMicros event => rwa [tells_event reported stepped rfl]
  | toggle macCode timestampMicros event =>
      by_cases right : macCode = 54
      · subst right
        rwa [told_toggle_right reported stepped]
      · rw [tells_toggle reported right stepped]
        split_ifs
        · exact fun told => told.elim (right ·.symm) silent
        · exact fun told => silent told.2

theorem pressed_toggle
    (stepped : step keyboard (.toggle macCode timestampMicros event) = .ok (captured, next)) :
    next.pressed = toggled keyboard.pressed macCode := by
  obtain ⟨-, rfl⟩ := Prod.mk.inj (Outcome.ok.inj stepped)
  rfl

theorem step_faithful (silent : ¬ Tells keyboard.told 54) (faithful : keyboard.Faithful)
    (reported : keyboard.Reported input) (stepped : step keyboard input = .ok (captured, next)) :
    next.Faithful ↔ keyboard.Plain input := by
  cases input with
  | event timestampMicros event =>
      refine iff_of_true (fun macCode modifier => ?_) trivial
      rw [tells_event reported stepped modifier, ← faithful macCode modifier]
      obtain ⟨-, rfl⟩ := Prod.mk.inj (Outcome.ok.inj stepped)
      rfl
  | toggle macCode timestampMicros event =>
      have modifier := reported.1
      unfold Faithful
      rw [pressed_toggle stepped]
      by_cases right : macCode = 54
      · subst right
        refine iff_of_false (fun nextFaithful => ?_) fun plain => plain.1 rfl
        have notPressed : 54 ∉ keyboard.pressed := fun pressed =>
          silent ((faithful 54 modifier).mp pressed)
        have told := (nextFaithful 54 modifier).mp (by simp [mem_toggled, notPressed])
        rw [told_toggle_right reported stepped] at told
        exact silent told
      · have told := tells_toggle reported right stepped
        by_cases pressed : macCode ∈ keyboard.pressed
        · by_cases sibling : ∃ other ∈ keyboard.pressed,
              modifierFlag other = modifierFlag macCode ∧ other ≠ macCode
          · -- The flag stays set, and the key that is released is told to be pressed.
            obtain ⟨other, on, sameFlag, apart⟩ := sibling
            have set : ∃ key ∈ toggled keyboard.pressed macCode,
                modifierFlag key = modifierFlag macCode :=
              ⟨other, mem_toggled.mpr (by rwa [if_neg apart]), sameFlag⟩
            refine iff_of_false (fun nextFaithful => ?_) fun plain =>
              apart (plain.2 pressed other on sameFlag)
            have stuck := (nextFaithful macCode modifier).mpr
              ((told macCode).mpr (by simp only [if_pos set, true_or]))
            rw [mem_toggled, if_pos rfl] at stuck
            exact stuck pressed
          · have clear : ¬ ∃ key ∈ toggled keyboard.pressed macCode,
                modifierFlag key = modifierFlag macCode := by
              rintro ⟨key, on, sameFlag⟩
              rw [mem_toggled] at on
              split_ifs at on with same
              · exact on pressed
              · exact sibling ⟨key, on, sameFlag, same⟩
            refine iff_of_true (fun other isModifier => ?_) ⟨right, fun _ other on sameFlag => ?_⟩
            · rw [told, if_neg clear, mem_toggled, ← faithful other isModifier]
              by_cases same : other = macCode
              · simp [same, pressed]
              · simp [same]
            · by_contra apart
              exact sibling ⟨other, on, sameFlag, apart⟩
        · have set : ∃ key ∈ toggled keyboard.pressed macCode,
              modifierFlag key = modifierFlag macCode :=
            ⟨macCode, mem_toggled.mpr (by rwa [if_pos rfl]), rfl⟩
          refine iff_of_true (fun other isModifier => ?_) ⟨right, fun on => absurd on pressed⟩
          rw [told, if_pos set, mem_toggled, ← faithful other isModifier]
          by_cases same : other = macCode
          · simp [same, pressed]
          · simp [same]

theorem start_faithful : start.Faithful := by
  intro macCode _
  simp [start, Tells]

/-- What is captured says at all times which modifier keys are pressed exactly if the command key on
the right is not used and no key is released while the other key of its flag is pressed. -/
theorem modifiers_told_iff {inputs : List KeyboardInput}
    (reported : Machine.Along step Reported start inputs) :
    Machine.Throughout step Faithful start inputs ↔ Machine.Along step Plain start inputs := by
  have kept {keyboard next : Keyboard} {input : KeyboardInput} {captured : List NativeCapturedEvent}
      (silent : ¬ Tells keyboard.told 54) (faithful : keyboard.Faithful)
      (reported : keyboard.Reported input) (stepped : step keyboard input = .ok (captured, next)) :
      ¬ Tells next.told 54 ∧ (next.Faithful ↔ keyboard.Plain input) :=
    ⟨step_silent silent reported stepped, step_faithful silent faithful reported stepped⟩
  have succeeds (keyboard : Keyboard) (input : KeyboardInput) : (step keyboard input).IsOk := by
    cases input <;> exact ⟨_, rfl⟩
  have silent : ¬ Tells start.told 54 := by simp [start, Tells]
  exact Machine.throughout_iff_along_total succeeds kept silent start_faithful reported

/-- The event of a shift key. -/
def sampleShift (macCode : Nat) : CgEvent where
  eventType := eventFlagsChanged
  field := fun field => if field = 9 then macCode else 0
  flags := flagShift

theorem sampleShift_reports {pressed : Finset Nat} {macCode : Nat}
    (shifted : ∀ flag ∈ sharedFlags,
      (flag = flagShift ↔ ∃ other ∈ pressed, modifierFlag other = some flag)) :
    (sampleShift macCode).Reports pressed macCode :=
  { eventType := rfl
    key := rfl
    flags := fun flag shared => by
      rw [← shifted flag shared]
      exact (by decide : ∀ flag ∈ sharedFlags, (flagShift &&& flag ≠ 0 ↔ flag = flagShift)) flag
        shared }

/-- Both shift keys are pressed, and the left one is released first. -/
theorem modifiers_told_iff_shift :
    ¬ Machine.Throughout step Faithful start
      [.toggle 56 0 (sampleShift 56), .toggle 60 0 (sampleShift 60),
        .toggle 56 0 (sampleShift 56)] := by
  have reported : Machine.Along step Reported start
      [.toggle 56 0 (sampleShift 56), .toggle 60 0 (sampleShift 60),
        .toggle 56 0 (sampleShift 56)] := by
    rw [Machine.along_cons rfl, Machine.along_cons rfl, Machine.along_cons rfl]
    exact ⟨⟨rfl, sampleShift_reports (by decide)⟩, ⟨rfl, sampleShift_reports (by decide)⟩,
      ⟨rfl, sampleShift_reports (by decide)⟩, trivial⟩
  rw [modifiers_told_iff reported]
  intro along
  exact absurd (((along.2 _ _ rfl).2 _ _ rfl).1.2 (by decide) 60 (by decide) rfl) (by decide)

end Keyboard
end Macos
end Rflow
