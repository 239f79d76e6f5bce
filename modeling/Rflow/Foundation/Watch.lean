import Mathlib

/-!
# Watched values

A watched value is overwritten by every sender.  Its receiver sees the latest one, and sees it once.
-/

namespace Foundation

/-- A value, and whether the receiver has yet to see it. -/
structure Watch (α : Type*) where
  value : α
  unseen : Bool
  deriving DecidableEq

namespace Watch

variable {α : Type*}

/-- The value that the channel is made with counts as seen. -/
def initial (value : α) : Watch α := { value, unseen := false }

/-- Put a value in the place of the last one. -/
def send (_ : Watch α) (value : α) : Watch α := { value, unseen := true }

/-- Take note of a value that has not been seen. -/
def receive (watch : Watch α) : Option (α × Watch α) :=
  if watch.unseen then some (watch.value, { watch with unseen := false }) else none

/-- What the receiver has yet to see. -/
def waiting (watch : Watch α) : List α := if watch.unseen then [watch.value] else []

variable {watch rest : Watch α} {value : α}

@[simp]
theorem waiting_initial : (initial value).waiting = [] := rfl

@[simp]
theorem waiting_send : (watch.send value).waiting = [value] := rfl

/-- What is received had been waiting, and nothing waits after it. -/
theorem receive_eq_some (received : watch.receive = some (value, rest)) :
    watch.waiting = [value] ∧ rest.waiting = [] := by
  unfold receive at received
  split_ifs at received with unseen
  obtain ⟨rfl, rfl⟩ := Prod.mk.inj (Option.some.inj received)
  exact ⟨if_pos unseen, rfl⟩

end Watch
end Foundation
