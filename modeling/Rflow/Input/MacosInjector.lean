import Rflow.Foundation.Machine
import Rflow.Input.Macos

/-!
# Injected events of macOS

The injector posts events of the system.  It keeps the modifiers and the mouse buttons that it has
been told are pressed, for the flags and the drags of what it posts.  Positions on the screen are
left out.
-/

namespace Rflow

open Foundation

namespace Macos

/-- What is posted, apart from its flags. -/
inductive Posting where
  | mouse (eventType button : Nat)
  | keyboard (keycode : Nat) (down : Bool)
  /-- The integer fields of a scroll that are set. -/
  | scroll (fields : List (Nat × Int))
  deriving DecidableEq

structure Posted where
  posting : Posting
  flags : Nat
  deriving DecidableEq

inductive InjectorOutput where
  | posted (posted : Posted)
  /-- A key that macOS does not have, or an event that is none of the injector's. -/
  | ignored
  | failed (error : String)
  deriving DecidableEq

/-- Whether the system tells the position of the pointer, and whether it creates events. -/
structure Availability where
  position : Bool
  creates : Bool
  deriving DecidableEq

inductive InjectorCall where
  | emitMotion (dx dy : Int)
  | emitRaw (eventType code : Nat) (value : Int)
  deriving DecidableEq

structure InjectorInput where
  system : Availability
  call : InjectorCall
  deriving DecidableEq

structure Injector where
  modifiers : Finset Nat
  mouseButtons : Finset Nat
  deriving DecidableEq

def isLinuxModifier (code : Nat) : Bool := code ∈ [29, 42, 54, 56, 58, 97, 100, 125, 126]

def modifierFlags (modifiers : Finset Nat) : Nat :=
  (if 58 ∈ modifiers then flagCapsLock else 0) |||
    (if 42 ∈ modifiers ∨ 54 ∈ modifiers then flagShift else 0) |||
    (if 29 ∈ modifiers ∨ 97 ∈ modifiers then flagControl else 0) |||
    (if 56 ∈ modifiers ∨ 100 ∈ modifiers then flagOption else 0) |||
    (if 125 ∈ modifiers ∨ 126 ∈ modifiers then flagCommand else 0)

/-- The event types of a button that is pressed and released, and its number. -/
def mouseButton (code : Nat) : Option (Nat × Nat × Nat) :=
  match code with
  | 272 => some (1, 2, 0)
  | 273 => some (3, 4, 1)
  | 274 => some (25, 26, 2)
  | 275 => some (25, 26, 3)
  | 276 => some (25, 26, 4)
  | _ => none

def dragEvent (buttons : Finset Nat) : Nat × Nat :=
  if 272 ∈ buttons then
    (eventLeftDragged, 0)
  else if 273 ∈ buttons then
    (eventRightDragged, 1)
  else
    match [274, 275, 276].find? (· ∈ buttons) with
    | some code => (eventOtherDragged, code - 272)
    | none => (eventMouseMoved, 0)

/-- The fields of one axis: in lines, in fixed point, and in points. -/
def setScrollAxis (delta : Int) (lineField fixedField pointField : Nat) : List (Nat × Int) :=
  [(lineField, delta), (fixedField, delta * 65536), (pointField, delta * 10)]

namespace Injector

def new : Injector := ⟨∅, ∅⟩

variable (injector : Injector) (system : Availability)

/-- Post an event that the system may fail to create. -/
def post (posting : Posting) (message : String) : InjectorOutput :=
  if system.creates then
    .posted ⟨posting, modifierFlags injector.modifiers⟩
  else
    .failed message

def postMouse (eventType button : Nat) : InjectorOutput :=
  injector.post system (.mouse eventType button) "create macOS mouse event"

def emitMotion : InjectorOutput :=
  if system.position then
    let (eventType, button) := dragEvent injector.mouseButtons
    injector.postMouse system eventType button
  else
    .failed "read macOS pointer position"

def emitKey (code : Nat) (value : Int) : InjectorOutput × Injector :=
  match mouseButton code with
  | some (down, up, button) =>
      if system.position then
        let result := injector.postMouse system (if value = 0 then up else down) button
        (result, { injector with
          mouseButtons := if value = 0 then injector.mouseButtons.erase code
            else insert code injector.mouseButtons })
      else
        -- The state of the button is left as it was.
        (.failed "read macOS pointer position", injector)
  | none =>
      match linuxKeyToMacos code with
      | none => (.ignored, injector)
      | some keycode =>
          let injector := { injector with
            modifiers := if value = 0 then injector.modifiers.erase code
              else if isLinuxModifier code then insert code injector.modifiers
              else injector.modifiers }
          (injector.post system (.keyboard keycode (value ≠ 0)) "create macOS keyboard event",
            injector)

def emitScroll (vertical horizontal : Int) : InjectorOutput :=
  injector.post system
    (.scroll (setScrollAxis vertical 11 93 96 ++ setScrollAxis horizontal 12 94 97))
    "create macOS scroll event"

def emitRaw (eventType code : Nat) (value : Int) : InjectorOutput × Injector :=
  match eventType, code with
  | 1, code => injector.emitKey system code value
  | 2, 8 => (injector.emitScroll system value 0, injector)
  | 2, 6 => (injector.emitScroll system 0 value, injector)
  | _, _ => (.ignored, injector)

def respond : InjectorInput → InjectorOutput × Injector
  | ⟨system, .emitMotion _ _⟩ => (injector.emitMotion system, injector)
  | ⟨system, .emitRaw eventType code value⟩ => injector.emitRaw system eventType code value

def step : Machine.Step Injector InjectorInput InjectorOutput Unit
  | injector, input => .ok ([(injector.respond input).1], (injector.respond input).2)

end Injector

/-- What an input tells about a key or a button: that it is pressed, or that it is not.  A button
tells nothing if the position of the pointer cannot be read. -/
def InjectorInput.tells (code : Nat) : InjectorInput → Option Bool
  | ⟨system, .emitRaw 1 other value⟩ =>
      if other = code ∧ ((mouseButton other).isNone ∨ system.position) then
        some (value ≠ 0)
      else
        none
  | _ => none

/-- The key or button was pressed when the inputs last told of it. -/
def held (inputs : List InjectorInput) (code : Nat) : Bool :=
  (inputs.filterMap (InjectorInput.tells code)).getLast?.getD false

theorem held_append (inputs : List InjectorInput) (input : InjectorInput) (code : Nat) :
    held (inputs ++ [input]) code = (input.tells code).getD (held inputs code) := by
  unfold held
  cases told : input.tells code <;> simp [told, List.getLast?_append]

theorem mouseButton_of_modifier {code : Nat} (modifier : isLinuxModifier code = true) :
    mouseButton code = none := by
  have none : ∀ code ∈ [29, 42, 54, 56, 58, 97, 100, 125, 126], mouseButton code = none := by decide
  exact none code (of_decide_eq_true modifier)

theorem linuxKeyToMacos_of_modifier {code : Nat} (modifier : isLinuxModifier code = true) :
    linuxKeyToMacos code ≠ none := by
  have mapped : ∀ code ∈ [29, 42, 54, 56, 58, 97, 100, 125, 126], linuxKeyToMacos code ≠ none := by
    decide
  exact mapped code (of_decide_eq_true modifier)

namespace Injector

variable {injector next : Injector} {input : InjectorInput} {outputs : List InjectorOutput}
  {code : Nat}

/-- The injector keeps what the inputs have told it. -/
structure Follows (inputs : List InjectorInput) (injector : Injector) : Prop where
  modifiers : ∀ code, code ∈ injector.modifiers ↔
    isLinuxModifier code = true ∧ held inputs code = true
  buttons : ∀ code, code ∈ injector.mouseButtons ↔
    (mouseButton code).isSome ∧ held inputs code = true

/-- What a key or button tells counts for it alone. -/
theorem held_raw {inputs : List InjectorInput} {system : Availability} {other : Nat} {value : Int}
    (code : Nat) : held (inputs ++ [⟨system, .emitRaw 1 other value⟩]) code =
      if other = code ∧ ((mouseButton other).isNone ∨ system.position) then decide (value ≠ 0)
      else held inputs code := by
  rw [held_append, InjectorInput.tells]
  split_ifs <;> rfl

theorem mem_marked {codes : Finset Nat} {other code : Nat} {value : Int} :
    code ∈ (if value = 0 then codes.erase other else insert other codes) ↔
      if other = code then value ≠ 0 else code ∈ codes := by
  by_cases released : value = 0 <;> by_cases same : other = code
  · simp [released, same]
  · simp [released, same, Ne.symm same]
  · simp [released, same]
  · simp [released, same, Ne.symm same]

theorem Follows.emitKey {inputs : List InjectorInput} (follows : injector.Follows inputs)
    (system : Availability) (other : Nat) (value : Int) :
    (injector.emitKey system other value).2.Follows
      (inputs ++ [⟨system, .emitRaw 1 other value⟩]) := by
  cases button : mouseButton other with
  | some events =>
      have notModifier : isLinuxModifier other = false := Bool.eq_false_iff.mpr fun modifier => by
        cases button.symm.trans (mouseButton_of_modifier modifier)
      cases position : system.position with
      | false =>
          simp only [Injector.emitKey, button, position, Bool.false_eq_true, reduceIte]
          constructor <;> intro code <;> rw [held_raw, if_neg (by simp [button, position])]
          · exact follows.modifiers code
          · exact follows.buttons code
      | true =>
          simp only [Injector.emitKey, button, position, reduceIte]
          constructor <;> intro code <;> rw [held_raw]
          · by_cases same : other = code
            · subst same
              simpa [notModifier] using (follows.modifiers other).not
            · simpa [same] using follows.modifiers code
          · rw [mem_marked]
            by_cases same : other = code
            · subst same
              simp [button, position]
            · simpa [same] using follows.buttons code
  | none =>
      have notButton {code : Nat} (isButton : (mouseButton code).isSome) : other ≠ code := by
        rintro rfl
        rw [button] at isButton
        cases isButton
      cases keycode : linuxKeyToMacos other with
      | none =>
          have notModifier : isLinuxModifier other = false := Bool.eq_false_iff.mpr
            fun modifier => linuxKeyToMacos_of_modifier modifier keycode
          simp only [Injector.emitKey, button, keycode]
          constructor <;> intro code <;> rw [held_raw]
          · by_cases same : other = code
            · subst same
              simpa [notModifier] using (follows.modifiers other).not
            · simpa [same] using follows.modifiers code
          · have kept := follows.buttons code
            by_cases isButton : (mouseButton code).isSome
            · simpa [notButton isButton] using kept
            · simpa [isButton] using kept
      | some keycode =>
          simp only [Injector.emitKey, button, keycode]
          constructor <;> intro code <;> rw [held_raw]
          · have kept := follows.modifiers code
            by_cases same : other = code
            · subst same
              by_cases released : value = 0 <;> cases modifier : isLinuxModifier other <;>
                simp_all
            · have apart : code ≠ other := Ne.symm same
              by_cases released : value = 0 <;> cases modifier : isLinuxModifier other <;>
                simp [same, apart, released, kept]
          · have kept := follows.buttons code
            by_cases isButton : (mouseButton code).isSome
            · simpa [notButton isButton] using kept
            · simpa [isButton] using kept

theorem emitRaw_other {eventType : Nat} (system : Availability) (value : Int)
    (other : eventType ≠ 1) : (injector.emitRaw system eventType code value).2 = injector := by
  unfold emitRaw
  split
  · exact absurd rfl other
  · rfl
  · rfl
  · rfl

theorem Follows.respond {inputs : List InjectorInput} (follows : injector.Follows inputs)
    (input : InjectorInput) : (injector.respond input).2.Follows (inputs ++ [input]) := by
  obtain ⟨system, call⟩ := input
  have quiet (silent : ∀ code, InjectorInput.tells code ⟨system, call⟩ = none)
      (same : (injector.respond ⟨system, call⟩).2 = injector) :
      (injector.respond ⟨system, call⟩).2.Follows (inputs ++ [⟨system, call⟩]) := by
    rw [same]
    constructor <;> intro code <;> rw [held_append, silent, Option.getD_none]
    · exact follows.modifiers code
    · exact follows.buttons code
  cases call with
  | emitMotion dx dy => exact quiet (fun _ => rfl) rfl
  | emitRaw eventType other value =>
      by_cases key : eventType = 1
      · subst key
        exact follows.emitKey system other value
      · refine quiet (fun code => ?_) (emitRaw_other system value key)
        unfold InjectorInput.tells
        split
        · rename_i same
          injection same with _ same
          injection same with same
          exact absurd same key
        · rfl

theorem post_posted {system : Availability} {posting : Posting} {message : String}
    {posted : Posted} (isPosted : injector.post system posting message = .posted posted) :
    posted = ⟨posting, modifierFlags injector.modifiers⟩ := by
  unfold post at isPosted
  split_ifs at isPosted
  exact (InjectorOutput.posted.inj isPosted).symm

theorem emitKey_flags {system : Availability} {value : Int} {posted : Posted}
    (isPosted : (injector.emitKey system code value).1 = .posted posted) :
    posted.flags = modifierFlags (injector.emitKey system code value).2.modifiers := by
  cases button : mouseButton code with
  | some events =>
      cases position : system.position <;>
        simp only [emitKey, button, position, Bool.false_eq_true, reduceIte,
          postMouse] at isPosted ⊢
      · cases isPosted
      · rw [post_posted isPosted]
  | none =>
      cases keycode : linuxKeyToMacos code <;> simp only [emitKey, button, keycode] at isPosted ⊢
      · cases isPosted
      · rw [post_posted isPosted]

theorem emitRaw_flags {system : Availability} {eventType : Nat} {value : Int} {posted : Posted}
    (isPosted : (injector.emitRaw system eventType code value).1 = .posted posted) :
    posted.flags = modifierFlags (injector.emitRaw system eventType code value).2.modifiers := by
  unfold emitRaw at isPosted ⊢
  split at isPosted
  · exact emitKey_flags isPosted
  · rw [post_posted isPosted]
  · rw [post_posted isPosted]
  · cases isPosted

theorem emitMotion_posted {system : Availability} {posted : Posted}
    (isPosted : injector.emitMotion system = .posted posted) :
    posted = ⟨.mouse (dragEvent injector.mouseButtons).1 (dragEvent injector.mouseButtons).2,
      modifierFlags injector.modifiers⟩ := by
  unfold emitMotion at isPosted
  split_ifs at isPosted
  exact post_posted isPosted

/-- What is posted has the flags of the modifiers that are pressed then. -/
theorem respond_flags {posted : Posted} (isPosted : (injector.respond input).1 = .posted posted) :
    posted.flags = modifierFlags (injector.respond input).2.modifiers := by
  obtain ⟨system, call⟩ := input
  cases call with
  | emitMotion dx dy => rw [emitMotion_posted isPosted]; rfl
  | emitRaw eventType code value => exact emitRaw_flags isPosted

/-- The keys that have a flag, and the place of the flag. -/
theorem flagged_key_iff (key bit : Nat) :
    (linuxKeyToMacos key).bind modifierFlag = some (2 ^ bit) ↔
      bit = 16 ∧ key = 58 ∨ bit = 17 ∧ (key = 42 ∨ key = 54) ∨ bit = 18 ∧ (key = 29 ∨ key = 97) ∨
        bit = 19 ∧ (key = 56 ∨ key = 100) ∨ bit = 20 ∧ (key = 125 ∨ key = 126) := by
  constructor
  · intro flagged
    obtain ⟨macCode, found, flag⟩ := Option.bind_eq_some_iff.mp flagged
    have table : ∀ entry ∈ linuxKeys, modifierFlag entry.2 = none ∨
        modifierFlag entry.2 = some (2 ^ 16) ∧ entry.1 = 58 ∨
        modifierFlag entry.2 = some (2 ^ 17) ∧ (entry.1 = 42 ∨ entry.1 = 54) ∨
        modifierFlag entry.2 = some (2 ^ 18) ∧ (entry.1 = 29 ∨ entry.1 = 97) ∨
        modifierFlag entry.2 = some (2 ^ 19) ∧ (entry.1 = 56 ∨ entry.1 = 100) ∨
        modifierFlag entry.2 = some (2 ^ 20) ∧ (entry.1 = 125 ∨ entry.1 = 126) := by decide
    have entry := table _ (linuxKeyToMacos_eq_some found)
    simpa only [flag, reduceCtorEq, false_or, Option.some.injEq,
      Nat.pow_right_inj (le_refl 2)] using entry
  · rintro (⟨rfl, rfl⟩ | ⟨rfl, rfl | rfl⟩ | ⟨rfl, rfl | rfl⟩ | ⟨rfl, rfl | rfl⟩ |
      ⟨rfl, rfl | rfl⟩) <;> decide

theorem testBit_flag (condition : Prop) [Decidable condition] (place bit : Nat) :
    (if condition then 2 ^ place else 0).testBit bit = true ↔ condition ∧ place = bit := by
  split_ifs with holds <;> simp [Nat.testBit_two_pow, holds]

/-- The flags are those of the keys. -/
theorem modifierFlags_testBit (modifiers : Finset Nat) (bit : Nat) :
    (modifierFlags modifiers).testBit bit = true ↔
      ∃ key ∈ modifiers, (linuxKeyToMacos key).bind modifierFlag = some (2 ^ bit) := by
  simp only [flagged_key_iff, modifierFlags, Nat.testBit_or, flagCapsLock, flagShift, flagControl,
    flagOption, flagCommand, Bool.or_eq_true, testBit_flag]
  constructor
  · rintro ((((⟨on, rfl⟩ | ⟨on | on, rfl⟩) | ⟨on | on, rfl⟩) | ⟨on | on, rfl⟩) | ⟨on | on, rfl⟩)
    all_goals exact ⟨_, on, by decide⟩
  · rintro ⟨key, on, ⟨rfl, rfl⟩ | ⟨rfl, rfl | rfl⟩ | ⟨rfl, rfl | rfl⟩ | ⟨rfl, rfl | rfl⟩ |
      ⟨rfl, rfl | rfl⟩⟩
    all_goals simp only [on, true_or, or_true, and_self]

theorem new_follows : new.Follows [] := by
  constructor <;> intro code <;> simp [new, held]

theorem run_follows {inputs : List InjectorInput} (ran : Machine.run step new inputs =
    .ok (outputs, next)) : next.Follows inputs := by
  have kept {past : List InjectorInput} {middle after : Injector} {input : InjectorInput}
      {first rest : List InjectorOutput} (_ : Machine.run step new past = .ok (first, middle))
      (follows : middle.Follows past) (_ : True)
      (stepped : step middle input = .ok (rest, after)) : after.Follows (past ++ [input]) := by
    obtain ⟨_, rfl⟩ := Prod.mk.inj (Outcome.ok.inj stepped)
    exact follows.respond input
  exact Machine.run_history kept new_follows (fun _ _ => trivial) ran

/-- The movement that is posted while a button is held, the first of them if there are several. -/
def movement : Option Nat → Posting
  | some 272 => .mouse eventLeftDragged 0
  | some 273 => .mouse eventRightDragged 1
  | some code => .mouse eventOtherDragged (code - 272)
  | none => .mouse eventMouseMoved 0

theorem Follows.dragEvent {inputs : List InjectorInput} (follows : injector.Follows inputs) :
    Posting.mouse (dragEvent injector.mouseButtons).1 (dragEvent injector.mouseButtons).2 =
      movement ([272, 273, 274, 275, 276].find? (held inputs)) := by
  have isHeld (code : Nat) (isButton : (mouseButton code).isSome) :
      code ∈ injector.mouseButtons ↔ held inputs code = true := by
    simp [follows.buttons, isButton]
  simp only [Macos.dragEvent, isHeld 272 rfl, isHeld 273 rfl, List.find?_cons, List.find?_nil,
    isHeld 274 rfl, isHeld 275 rfl, isHeld 276 rfl, Bool.decide_eq_true]
  cases held inputs 272 <;> cases held inputs 273 <;> cases held inputs 274 <;>
    cases held inputs 275 <;> cases held inputs 276 <;> rfl

/-- Whatever is posted along a run has the flag of a modifier set exactly if the inputs so far hold
one of its keys, and a movement is posted as a drag exactly of the first button that they hold. -/
theorem posted_as_held {inputs : List InjectorInput}
    (ran : Machine.run step new inputs = .ok (outputs, next)) {index : Nat} {posted : Posted}
    (posts : outputs[index]? = some (.posted posted)) :
    (∀ bit, posted.flags.testBit bit = true ↔
      ∃ key, held (inputs.take (index + 1)) key = true ∧
        (linuxKeyToMacos key).bind modifierFlag = some (2 ^ bit)) ∧
    ∀ system dx dy, inputs[index]? = some ⟨system, .emitMotion dx dy⟩ →
      posted.posting =
        movement ([272, 273, 274, 275, 276].find? (held (inputs.take (index + 1)))) := by
  obtain ⟨first, middle, input, before, found, same, after⟩ :=
    Machine.run_at (fun _ _ => rfl) ran posts
  have follows := run_follows after
  refine ⟨fun bit => ?_, fun system dx dy isMotion => ?_⟩
  · rw [respond_flags same.symm, modifierFlags_testBit]
    refine exists_congr fun key => and_congr_left fun flagged => ?_
    have modifier : isLinuxModifier key = true := by
      rcases (flagged_key_iff key bit).mp flagged with ⟨-, rfl⟩ | ⟨-, rfl | rfl⟩ | ⟨-, rfl | rfl⟩ |
        ⟨-, rfl | rfl⟩ | ⟨-, rfl | rfl⟩ <;> rfl
    simp [follows.modifiers, modifier]
  · obtain rfl := Option.some.inj (found.symm.trans isMotion)
    rw [emitMotion_posted same.symm]
    exact follows.dragEvent

/-- Shift is held with the second button, and then without it. -/
theorem posted_as_held_shift :
    ∃ outputs next posted,
      Machine.run step new
        [⟨⟨true, true⟩, .emitRaw 1 42 1⟩, ⟨⟨true, true⟩, .emitRaw 1 273 1⟩,
          ⟨⟨true, true⟩, .emitMotion 3 4⟩, ⟨⟨true, true⟩, .emitRaw 1 273 0⟩] =
        .ok (outputs, next) ∧
      outputs[2]? = some (.posted posted) ∧ posted.posting = .mouse eventRightDragged 1 ∧
        posted.flags.testBit 17 = true := by
  obtain ⟨outputs, next, posted, ran, posts⟩ : ∃ outputs next posted, Machine.run step new
      [⟨⟨true, true⟩, .emitRaw 1 42 1⟩, ⟨⟨true, true⟩, .emitRaw 1 273 1⟩,
        ⟨⟨true, true⟩, .emitMotion 3 4⟩, ⟨⟨true, true⟩, .emitRaw 1 273 0⟩] =
      .ok (outputs, next) ∧ outputs[2]? = some (.posted posted) := ⟨_, _, _, rfl, rfl⟩
  obtain ⟨flags, moves⟩ := posted_as_held ran posts
  refine ⟨outputs, next, posted, ran, posts, (moves _ _ _ rfl).trans (by decide), ?_⟩
  exact (flags 17).mpr ⟨42, by decide, by decide⟩

end Injector
end Macos
end Rflow
