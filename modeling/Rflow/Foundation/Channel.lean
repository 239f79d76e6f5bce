import Mathlib

/-!
# Bounded channels

A channel hands messages over in the order in which they were sent, and holds a bounded number of
them.  A full channel takes no message until one is received.
-/

namespace Foundation

/-- The messages that are sent and not received yet, oldest first. -/
structure Channel (α : Type*) (capacity : Nat) where
  messages : List α
  bounded : messages.length ≤ capacity
  deriving DecidableEq

namespace Channel

variable {α : Type*} {capacity : Nat}

def empty : Channel α capacity := ⟨[], Nat.zero_le _⟩

/-- There is no room for another message. -/
def Full (channel : Channel α capacity) : Prop := channel.messages.length = capacity

instance (channel : Channel α capacity) : Decidable channel.Full :=
  inferInstanceAs (Decidable (_ = _))

/-- Send a message, if there is room. -/
def send (channel : Channel α capacity) (message : α) : Option (Channel α capacity) :=
  if room : channel.messages.length < capacity then
    some ⟨channel.messages ++ [message], by simpa using room⟩
  else
    none

/-- Receive the oldest message. -/
def receive : Channel α capacity → Option (α × Channel α capacity)
  | ⟨[], _⟩ => none
  | ⟨message :: messages, bounded⟩ =>
      some (message, ⟨messages, (Nat.le_succ _).trans bounded⟩)

variable {channel rest : Channel α capacity} {message : α}

/-- A message is refused exactly when the channel is full. -/
theorem send_eq_none : channel.send message = none ↔ channel.Full := by
  have bounded := channel.bounded
  unfold send Full
  split_ifs with room
  · simpa using room.ne
  · simpa using le_antisymm bounded (not_lt.mp room)

/-- A message is sent to the end of the channel. -/
theorem messages_of_send (sent : channel.send message = some rest) :
    rest.messages = channel.messages ++ [message] := by
  unfold send at sent
  split_ifs at sent
  obtain rfl := Option.some.inj sent
  rfl

/-- A message is received from the front of the channel. -/
theorem messages_of_receive (received : channel.receive = some (message, rest)) :
    channel.messages = message :: rest.messages := by
  obtain ⟨messages, bounded⟩ := channel
  cases messages with
  | nil => cases received
  | cons first others =>
      obtain ⟨rfl, rfl⟩ := Prod.mk.inj (Option.some.inj received)
      rfl

/-- A channel that takes a message has room for it. -/
theorem not_full_of_send (sent : channel.send message = some rest) : ¬ channel.Full := by
  intro full
  cases (send_eq_none.mpr full).symm.trans sent

/-- A channel that refuses a message is full. -/
theorem full_of_refused (message : α) (refused : ∀ rest, channel.send message ≠ some rest) :
    channel.Full :=
  send_eq_none.mp (Option.eq_none_iff_forall_ne_some.mpr refused)

/-- There is nothing to receive exactly when the channel is empty. -/
theorem receive_eq_none : channel.receive = none ↔ channel.messages = [] := by
  obtain ⟨messages, bounded⟩ := channel
  cases messages with
  | nil => exact iff_of_true rfl rfl
  | cons first others => exact iff_of_false nofun nofun

/-- After a message is received there is room. -/
theorem not_full_of_receive (received : channel.receive = some (message, rest)) : ¬ rest.Full := by
  obtain ⟨messages, bounded⟩ := channel
  cases messages with
  | nil => cases received
  | cons first others =>
      obtain ⟨_, rfl⟩ := Prod.mk.inj (Option.some.inj received)
      exact fun full => absurd bounded (by simp [Full] at full; simp [full])

/-- A full channel has a message to receive. -/
theorem Full.exists_receive (full : channel.Full) (positive : 0 < capacity) :
    ∃ message rest, channel.receive = some (message, rest) := by
  obtain ⟨messages, bounded⟩ := channel
  cases messages with
  | nil => exact absurd full positive.ne
  | cons first others => exact ⟨_, _, rfl⟩

end Channel
end Foundation
