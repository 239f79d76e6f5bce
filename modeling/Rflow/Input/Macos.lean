import Rflow.Input.Capture

/-!
# Keys and events of macOS

The tables between the key codes of Linux, which are those of the wire, and the virtual key codes of
macOS, and what is captured of an event of macOS.
-/

namespace Rflow

open Foundation

namespace Macos

/-- The keys of Linux that have a virtual key code. -/
def linuxKeys : List (Nat × Nat) :=
  [(1, 53), (2, 18), (3, 19), (4, 20), (5, 21), (6, 23), (7, 22), (8, 26), (9, 28), (10, 25),
    (11, 29), (12, 27), (13, 24), (14, 51), (15, 48), (16, 12), (17, 13), (18, 14), (19, 15),
    (20, 17), (21, 16), (22, 32), (23, 34), (24, 31), (25, 35), (26, 33), (27, 30), (28, 36),
    (96, 36), (29, 59), (97, 62), (30, 0), (31, 1), (32, 2), (33, 3), (34, 5), (35, 4), (36, 38),
    (37, 40), (38, 37), (39, 41), (40, 39), (41, 50), (42, 56), (54, 60), (43, 42), (44, 6),
    (45, 7), (46, 8), (47, 9), (48, 11), (49, 45), (50, 46), (51, 43), (52, 47), (53, 44),
    (56, 58), (100, 61), (57, 49), (58, 57), (59, 122), (60, 120), (61, 99), (62, 118), (63, 96),
    (64, 97), (65, 98), (66, 100), (67, 101), (68, 109), (87, 103), (88, 111), (102, 115),
    (103, 126), (104, 116), (105, 123), (106, 124), (107, 119), (108, 125), (109, 121),
    (110, 114), (111, 117), (125, 55), (126, 54)]

/-- The virtual key codes that have a key of Linux. -/
def macosKeys : List (Nat × Nat) :=
  [(0, 30), (1, 31), (2, 32), (3, 33), (4, 35), (5, 34), (6, 44), (7, 45), (8, 46), (9, 47),
    (11, 48), (12, 16), (13, 17), (14, 18), (15, 19), (16, 21), (17, 20), (18, 2), (19, 3),
    (20, 4), (21, 5), (22, 7), (23, 6), (24, 13), (25, 10), (26, 8), (27, 12), (28, 9), (29, 11),
    (30, 27), (31, 24), (32, 22), (33, 26), (34, 23), (35, 25), (36, 28), (37, 38), (38, 36),
    (39, 40), (40, 37), (41, 39), (42, 43), (43, 51), (44, 53), (45, 49), (46, 50), (47, 52),
    (48, 15), (49, 57), (50, 41), (51, 14), (53, 1), (55, 125), (56, 42), (57, 58), (58, 56),
    (59, 29), (60, 54), (61, 100), (62, 97), (96, 63), (97, 64), (98, 65), (99, 61), (100, 66),
    (101, 67), (103, 87), (109, 68), (111, 88), (114, 110), (115, 102), (116, 104), (117, 111),
    (118, 62), (119, 107), (120, 60), (121, 109), (122, 59), (123, 105), (124, 106), (125, 108),
    (126, 103)]

def linuxKeyToMacos (code : Nat) : Option Nat :=
  (linuxKeys.find? fun entry => entry.1 = code).map Prod.snd

def macosKeyToLinux (code : Nat) : Option Nat :=
  (macosKeys.find? fun entry => entry.1 = code).map Prod.snd

/-! ## Captured events -/

@[match_pattern] def eventLeftDown : Nat := 1
@[match_pattern] def eventLeftUp : Nat := 2
@[match_pattern] def eventRightDown : Nat := 3
@[match_pattern] def eventRightUp : Nat := 4
@[match_pattern] def eventMouseMoved : Nat := 5
@[match_pattern] def eventLeftDragged : Nat := 6
@[match_pattern] def eventRightDragged : Nat := 7
@[match_pattern] def eventKeyDown : Nat := 10
@[match_pattern] def eventKeyUp : Nat := 11
@[match_pattern] def eventFlagsChanged : Nat := 12
@[match_pattern] def eventScroll : Nat := 22
@[match_pattern] def eventOtherDown : Nat := 25
@[match_pattern] def eventOtherUp : Nat := 26
@[match_pattern] def eventOtherDragged : Nat := 27

def flagCapsLock : Nat := 2 ^ 16
def flagShift : Nat := 2 ^ 17
def flagControl : Nat := 2 ^ 18
def flagOption : Nat := 2 ^ 19
def flagCommand : Nat := 2 ^ 20

/-- The flag that a modifier key belongs to. -/
def modifierFlag (macCode : Nat) : Option Nat :=
  match macCode with
  | 54 | 55 => some flagCommand
  | 56 | 60 => some flagShift
  | 57 => some flagCapsLock
  | 58 | 61 => some flagOption
  | 59 | 62 => some flagControl
  | _ => none

/-- An event of the system, with its integer fields and its flags. -/
structure CgEvent where
  eventType : Nat
  field : Nat → Int
  flags : Nat

/-- The cast `value as u16`. -/
def asU16 (value : Int) : Nat := (value % 65536).toNat

/-- The cast `value as i32`. -/
def asI32 (value : Int) : Int := Int.bmod value 4294967296

structure CaptureContext where
  sequence : Nat
  modifiers : Finset Nat
  deriving DecidableEq

namespace CaptureContext

def nextSequence (context : CaptureContext) : Nat := wrappingSucc context.sequence

def sendReliable (context : CaptureContext) (eventType code : Nat) (value : Int) :
    List NativeCapturedEvent × CaptureContext :=
  ([.input 0 context.nextSequence eventType code value],
    { context with sequence := context.nextSequence })

def sendKey (context : CaptureContext) (code : Nat) (value : Int) :
    List NativeCapturedEvent × CaptureContext :=
  context.sendReliable 1 code value

/-- The button that an event of another button is about. -/
def otherButton (number : Int) : Option Nat :=
  match number with
  | 2 => some 274
  | 3 => some 275
  | 4 => some 276
  | _ => none

/-- A modifier key is pressed or released; it is taken to be pressed if its flag is set. -/
def changeModifier (context : CaptureContext) (macCode flags : Nat) :
    List NativeCapturedEvent × CaptureContext :=
  match macosKeyToLinux macCode with
  | some code =>
      if (modifierFlag macCode).any fun flag => flags &&& flag ≠ 0 then
        { context with modifiers := insert code context.modifiers }.sendKey code 1
      else
        { context with modifiers := context.modifiers.erase code }.sendKey code 0
  | none => ([], context)

def handleCapturedEvent (context : CaptureContext) (timestampMicros : Nat) (event : CgEvent) :
    List NativeCapturedEvent × CaptureContext :=
  match event.eventType with
  | eventMouseMoved | eventLeftDragged | eventRightDragged | eventOtherDragged =>
      let dx := asI32 (event.field 4)
      let dy := asI32 (event.field 5)
      if dx ≠ 0 ∨ dy ≠ 0 then
        ([.motion 0 context.nextSequence timestampMicros dx dy],
          { context with sequence := context.nextSequence })
      else
        ([], context)
  | eventLeftDown => context.sendKey 272 1
  | eventLeftUp => context.sendKey 272 0
  | eventRightDown => context.sendKey 273 1
  | eventRightUp => context.sendKey 273 0
  | eventOtherDown | eventOtherUp =>
      match otherButton (event.field 3) with
      | some button => context.sendKey button (if event.eventType = eventOtherDown then 1 else 0)
      | none => ([], context)
  | eventKeyDown | eventKeyUp =>
      match macosKeyToLinux (asU16 (event.field 9)) with
      | some code =>
          context.sendKey code
            (if event.eventType = eventKeyUp then 0 else if event.field 8 ≠ 0 then 2 else 1)
      | none => ([], context)
  | eventFlagsChanged =>
      context.changeModifier (asU16 (event.field 9)) event.flags
  | eventScroll =>
      let vertical := asI32 (event.field 11)
      let horizontal := asI32 (event.field 12)
      let (first, context) :=
        if vertical ≠ 0 then context.sendReliable 2 8 vertical else ([], context)
      let (second, context) :=
        if horizontal ≠ 0 then context.sendReliable 2 6 horizontal else ([], context)
      (first ++ second, context)
  | _ => ([], context)

end CaptureContext

/-! ## The tables -/

theorem macosKeyToLinux_eq_some {macCode code : Nat} (found : macosKeyToLinux macCode = some code) :
    (macCode, code) ∈ macosKeys := by
  obtain ⟨entry, isFound, rfl⟩ := Option.map_eq_some_iff.mp found
  have same : entry.1 = macCode := by simpa using List.find?_some isFound
  exact same ▸ List.mem_of_find?_eq_some isFound

theorem linuxKeyToMacos_eq_some {code macCode : Nat} (found : linuxKeyToMacos code = some macCode) :
    (code, macCode) ∈ linuxKeys := by
  obtain ⟨entry, isFound, rfl⟩ := Option.map_eq_some_iff.mp found
  have same : entry.1 = code := by simpa using List.find?_some isFound
  exact same ▸ List.mem_of_find?_eq_some isFound

/-- Every key that is captured is injected as itself. -/
theorem linuxKeyToMacos_of_captured {macCode code : Nat}
    (found : macosKeyToLinux macCode = some code) : linuxKeyToMacos code = some macCode := by
  have whole : ∀ entry ∈ macosKeys, linuxKeyToMacos entry.2 = some entry.1 := by decide
  exact whole _ (macosKeyToLinux_eq_some found)

/-- Every key that is injected is captured as itself, but for the second enter key and the command
key on the right. -/
theorem macosKeyToLinux_of_injected {code macCode : Nat}
    (found : linuxKeyToMacos code = some macCode) :
    macosKeyToLinux macCode =
      if code = 96 then some 28 else if code = 126 then none else some code := by
  have whole : ∀ entry ∈ linuxKeys, macosKeyToLinux entry.2 =
      if entry.1 = 96 then some 28 else if entry.1 = 126 then none else some entry.1 := by decide
  exact whole _ (linuxKeyToMacos_eq_some found)

end Macos
end Rflow
