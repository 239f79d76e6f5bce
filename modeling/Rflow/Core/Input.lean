import Rflow.Foundation.OrderedSet

/-!
# Platform-independent input

Keys, buttons, scrolls and pointer motion, and the keys and buttons that can be held down.  Key
codes and button codes are `u16`, sequence numbers and timestamps are `u64`.
-/

namespace Rflow

/-- A canonical rflow keyboard code. -/
structure Key where
  code : Nat
  deriving DecidableEq, Repr

/-- A canonical rflow pointer button. -/
inductive Button where
  | left
  | right
  | middle
  | back
  | forward
  | other (code : Nat)
  deriving DecidableEq, Repr

inductive ButtonState where
  | pressed
  | released
  | repeated
  deriving DecidableEq, Repr

inductive InputEvent where
  | key (key : Key) (state : ButtonState)
  | button (button : Button) (state : ButtonState)
  | scroll (horizontal vertical : Int)
  deriving DecidableEq, Repr

structure Motion where
  sequence : Nat
  timestampMicros : Nat
  dx : Int
  dy : Int
  deriving DecidableEq, Repr

/-- A key or a button that can be held down. -/
inductive HeldInput where
  | key (key : Key)
  | button (button : Button)
  deriving DecidableEq, Repr

/-- Position of a button in the derived order of the source. -/
def Button.rank : Button → Nat ×ₗ Nat
  | .left => toLex (0, 0)
  | .right => toLex (1, 0)
  | .middle => toLex (2, 0)
  | .back => toLex (3, 0)
  | .forward => toLex (4, 0)
  | .other code => toLex (5, code)

/-- Position of a held input in the derived order of the source: keys before buttons. -/
def HeldInput.rank : HeldInput → Nat ×ₗ (Nat ×ₗ Nat)
  | .key pressed => toLex (0, toLex (pressed.code, 0))
  | .button pressed => toLex (1, pressed.rank)

theorem Button.rank_injective : Function.Injective Button.rank := by
  intro first second same
  cases first <;> cases second <;> simp_all [Button.rank]

theorem HeldInput.rank_injective : Function.Injective HeldInput.rank := by
  intro first second same
  cases first with
  | key first =>
      cases second with
      | key second =>
          obtain ⟨code⟩ := first
          simp_all [HeldInput.rank]
      | button second => simp [HeldInput.rank] at same
  | button first =>
      cases second with
      | key second => simp [HeldInput.rank] at same
      | button second =>
          have buttons : first = second := Button.rank_injective
              (by simpa [HeldInput.rank] using same)
          rw [buttons]

instance : LinearOrder HeldInput := LinearOrder.lift' HeldInput.rank HeldInput.rank_injective

namespace HeldInput

/-- The event that moves a held input into the given state. -/
def event : HeldInput → ButtonState → InputEvent
  | key code, state => .key code state
  | button code, state => .button code state

end HeldInput

namespace InputEvent

/-- The key or button an event is about; a scroll holds nothing. -/
def held : InputEvent → Option HeldInput
  | key code _ => some (.key code)
  | button code _ => some (.button code)
  | scroll _ _ => none

/-- The state an event moves its key or button into. -/
def state : InputEvent → Option ButtonState
  | key _ state => some state
  | button _ state => some state
  | scroll _ _ => none

end InputEvent

@[simp]
theorem HeldInput.held_event (item : HeldInput) (state : ButtonState) :
    (item.event state).held = some item := by
  cases item <;> rfl

@[simp]
theorem HeldInput.state_event (item : HeldInput) (state : ButtonState) :
    (item.event state).state = some state := by
  cases item <;> rfl

end Rflow
