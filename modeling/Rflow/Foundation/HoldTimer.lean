import Mathlib

/-!
# Hold timers

A hold timer starts at the first undisturbed event, is stopped by a disturbance, and fires at an
undisturbed event that comes at least a delay after its start.  It fires exactly when some stretch
of undisturbed events, taken from where the timer starts, lasts for the delay.
-/

namespace Foundation
namespace HoldTimer

/-- One event: its time, and whether it stops the timer. -/
structure Beat where
  time : Nat
  disturbs : Bool
  deriving DecidableEq

/-- The timer, which has been running since some time or is at rest, fires at one of the events. -/
def Fires (delay : Nat) : Option Nat → List Beat → Prop
  | _, [] => False
  | since, beat :: beats =>
      if beat.disturbs then
        Fires delay none beats
      else
        since.getD beat.time + delay ≤ beat.time ∨
          Fires delay (some (since.getD beat.time)) beats

instance decidableFires (delay : Nat) :
    (since : Option Nat) → (beats : List Beat) → Decidable (Fires delay since beats)
  | _, [] => inferInstanceAs (Decidable False)
  | since, beat :: beats =>
      have := decidableFires delay none beats
      have := decidableFires delay (some (since.getD beat.time)) beats
      inferInstanceAs (Decidable (if beat.disturbs then _ else _ ∨ _))

/-- Undisturbed events, of which the last comes at least a delay after a time. -/
structure Lasts (delay start : Nat) (stretch : List Beat) : Prop where
  calm : ∀ beat ∈ stretch, beat.disturbs = false
  long : ∃ last ∈ stretch.getLast?, start + delay ≤ last.time

/-- Some stretch of undisturbed events lasts for the delay: one at the beginning, counted from where
the timer already runs if it does, or one after a disturbance. -/
def Held (delay : Nat) (since : Option Nat) (beats : List Beat) : Prop :=
  ∃ front first stretch back, beats = front ++ first :: stretch ++ back ∧
    ((front = [] ∧ Lasts delay (since.getD first.time) (first :: stretch)) ∨
      ∃ before disturbance, front = before ++ [disturbance] ∧ disturbance.disturbs = true ∧
        Lasts delay first.time (first :: stretch))

variable {delay start : Nat} {since : Option Nat} {beat : Beat} {beats stretch : List Beat}

theorem lasts_singleton :
    Lasts delay start [beat] ↔ beat.disturbs = false ∧ start + delay ≤ beat.time :=
  ⟨fun lasts => ⟨lasts.calm beat List.mem_cons_self, by simpa using lasts.long⟩,
    fun ⟨calm, long⟩ => ⟨by simpa using calm, by simpa using long⟩⟩

/-- A longer stretch lasts when what follows its first event does. -/
theorem lasts_cons_cons {next : Beat} :
    Lasts delay start (beat :: next :: stretch) ↔
      beat.disturbs = false ∧ Lasts delay start (next :: stretch) := by
  constructor
  · rintro ⟨calm, long⟩
    exact ⟨calm beat List.mem_cons_self, fun other member =>
      calm other (List.mem_cons_of_mem beat member), by simpa using long⟩
  · rintro ⟨undisturbed, calm, long⟩
    exact ⟨List.forall_mem_cons.mpr ⟨undisturbed, calm⟩, by simpa using long⟩

/-- After a disturbance only the stretches behind it count. -/
theorem held_cons_of_disturbs (disturbs : beat.disturbs = true) :
    Held delay since (beat :: beats) ↔ Held delay none beats := by
  constructor
  · rintro ⟨front, first, stretch, back, split, ⟨rfl, lasts⟩ | ⟨before, last, rfl, stops, lasts⟩⟩
    · obtain ⟨rfl, -⟩ := List.cons.inj split
      exact absurd (lasts.calm beat List.mem_cons_self) (by simp [disturbs])
    · cases before with
      | nil =>
          obtain ⟨-, rfl⟩ := List.cons.inj split
          exact ⟨[], first, stretch, back, rfl, Or.inl ⟨rfl, lasts⟩⟩
      | cons _ before =>
          obtain ⟨-, rfl⟩ := List.cons.inj split
          exact ⟨before ++ [last], first, stretch, back, rfl,
            Or.inr ⟨before, last, rfl, stops, lasts⟩⟩
  · rintro ⟨front, first, stretch, back, rfl, ⟨rfl, lasts⟩ | ⟨before, last, rfl, stops, lasts⟩⟩
    · exact ⟨[beat], first, stretch, back, rfl, Or.inr ⟨[], beat, rfl, disturbs, lasts⟩⟩
    · exact ⟨beat :: (before ++ [last]), first, stretch, back, rfl,
        Or.inr ⟨beat :: before, last, rfl, stops, lasts⟩⟩

/-- An undisturbed event lets the timer fire or leaves it running from its start. -/
theorem held_cons_of_calm (calm : beat.disturbs = false) :
    Held delay since (beat :: beats) ↔
      since.getD beat.time + delay ≤ beat.time ∨
        Held delay (some (since.getD beat.time)) beats := by
  constructor
  · rintro ⟨front, first, stretch, back, split, ⟨rfl, lasts⟩ | ⟨before, last, rfl, stops, lasts⟩⟩
    · obtain ⟨rfl, rfl⟩ := List.cons.inj split
      cases stretch with
      | nil => exact Or.inl (lasts_singleton.mp lasts).2
      | cons next stretch =>
          exact Or.inr ⟨[], next, stretch, back, rfl, Or.inl ⟨rfl, (lasts_cons_cons.mp lasts).2⟩⟩
    · cases before with
      | nil =>
          obtain ⟨rfl, -⟩ := List.cons.inj split
          exact absurd stops (by simp [calm])
      | cons _ before =>
          obtain ⟨-, rfl⟩ := List.cons.inj split
          exact Or.inr ⟨before ++ [last], first, stretch, back, rfl,
            Or.inr ⟨before, last, rfl, stops, lasts⟩⟩
  · rintro (long | ⟨front, first, stretch, back, rfl, ⟨rfl, lasts⟩ | ⟨before, last, rfl, stops,
      lasts⟩⟩)
    · exact ⟨[], beat, [], beats, rfl, Or.inl ⟨rfl, lasts_singleton.mpr ⟨calm, long⟩⟩⟩
    · exact ⟨[], beat, first :: stretch, back, rfl,
        Or.inl ⟨rfl, lasts_cons_cons.mpr ⟨calm, lasts⟩⟩⟩
    · exact ⟨beat :: (before ++ [last]), first, stretch, back, rfl,
        Or.inr ⟨beat :: before, last, rfl, stops, lasts⟩⟩

/-- The timer fires exactly when some undisturbed stretch lasts for the delay. -/
theorem fires_iff_held : Fires delay since beats ↔ Held delay since beats := by
  induction beats generalizing since with
  | nil => simp [Fires, Held]
  | cons beat beats induction =>
      rw [Fires]
      by_cases disturbs : beat.disturbs = true
      · rw [if_pos disturbs, held_cons_of_disturbs disturbs, induction]
      · rw [if_neg disturbs, held_cons_of_calm (Bool.not_eq_true _ ▸ disturbs), induction]

/-- Events without a disturbance make one stretch. -/
theorem Held.of_calm {first last : Beat} (calm : ∀ beat ∈ first :: beats, beat.disturbs = false)
    (ends : (first :: beats).getLast? = some last) (span : first.time + delay ≤ last.time)
    (early : ∀ start ∈ since, start ≤ first.time) : Held delay since (first :: beats) := by
  have started : since.getD first.time ≤ first.time := by
    cases since with
    | none => exact le_rfl
    | some start => exact early start rfl
  refine ⟨[], first, beats, [], by simp, Or.inl ⟨rfl, calm, last, ends, ?_⟩⟩
  omega

end HoldTimer
end Foundation
