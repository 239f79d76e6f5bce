import Mathlib

/-!
# Sliding windows over a log of stamped events

A log lists events in the order of their times.  An event counts at a later time while it is
younger than the width of the window.  Where every counted event found fewer than a limit of its
kind still counting, no window of that width holds more than the limit, wherever it begins.
-/

namespace Foundation
namespace SlidingWindow

variable {ε : Type*} (time : ε → Nat) (width : Nat)

/-- The log is in the order of its times. -/
def InOrder (log : List ε) : Prop :=
  log.Pairwise fun first second => time first ≤ time second

instance (log : List ε) : Decidable (InOrder time log) :=
  inferInstanceAs (Decidable (List.Pairwise _ log))

/-- The events of the log that still count at a time. -/
def recent (now : Nat) (log : List ε) : List ε :=
  log.filter fun event => now < time event + width

/-- The events of the log in the window that begins at a time. -/
def within (start : Nat) (log : List ε) : List ε :=
  log.filter fun event => start ≤ time event ∧ time event < start + width

/-- Every counted event came when fewer than `limit` counted events before it still counted. -/
def Limited (limit : Nat) (counted : ε → Prop) [DecidablePred counted] (log : List ε) : Prop :=
  ∀ front event, front ++ [event] <+: log → counted event →
    (recent time width (time event) front).countP counted < limit

variable {time width} {log front back : List ε} {now later start limit : Nat}

theorem inOrder_concat {event : ε} :
    InOrder time (log ++ [event]) ↔ InOrder time log ∧ ∀ past ∈ log, time past ≤ time event := by
  simp [InOrder, List.pairwise_append]

theorem InOrder.sublist (ordered : InOrder time log) (sublist : front.Sublist log) :
    InOrder time front :=
  List.Pairwise.sublist sublist ordered

@[simp]
theorem recent_nil : recent time width now [] = [] := rfl

theorem recent_append :
    recent time width now (front ++ back) =
      recent time width now front ++ recent time width now back :=
  List.filter_append ..

theorem recent_sublist : (recent time width now log).Sublist log :=
  List.filter_sublist

/-- What no longer counts now does not count later. -/
theorem recent_recent (onward : now ≤ later) :
    recent time width later (recent time width now log) = recent time width later log := by
  rw [recent, recent, List.filter_filter]
  refine List.filter_congr fun event _ => ?_
  rw [Bool.eq_iff_iff]
  simp only [Bool.and_eq_true, decide_eq_true_eq]
  omega

/-- In an ordered log the events that no longer count are those at its front. -/
theorem InOrder.dropWhile_expired (ordered : InOrder time log) (wide : 0 < width) :
    (log.dropWhile fun event => width ≤ now - time event) = recent time width now log := by
  induction log with
  | nil => rfl
  | cons event rest induction =>
      obtain ⟨before, remaining⟩ := List.pairwise_cons.mp ordered
      by_cases expired : width ≤ now - time event
      · have gone : ¬ now < time event + width := by omega
        rw [List.dropWhile_cons_of_pos (by simpa using expired), induction remaining, recent,
          recent, List.filter_cons_of_neg (by simpa using gone)]
      · have counting : ∀ other ∈ event :: rest, now < time other + width := by
          intro other member
          obtain rfl | member := List.mem_cons.mp member
          · omega
          · have := before other member
            omega
        rw [List.dropWhile_cons_of_neg (by simpa using expired), recent,
          List.filter_eq_self.mpr fun other member => by simpa using counting other member]

@[simp]
theorem limited_nil {counted : ε → Prop} [DecidablePred counted] :
    Limited time width limit counted [] := by
  intro front event isPrefix
  simp at isPrefix

/-- A log stays within the limit when its next event does. -/
theorem limited_concat {counted : ε → Prop} [DecidablePred counted] {event : ε} :
    Limited time width limit counted (log ++ [event]) ↔
      Limited time width limit counted log ∧
        (counted event → (recent time width (time event) log).countP counted < limit) := by
  constructor
  · intro limited
    refine ⟨fun front other isPrefix => limited front other ?_, limited log event List.prefix_rfl⟩
    exact isPrefix.trans (List.prefix_append _ _)
  · rintro ⟨limited, room⟩ front other isPrefix
    obtain same | isPrefix := List.prefix_concat_iff.mp isPrefix
    · obtain ⟨rfl, rfl⟩ := List.append_inj' same rfl |>.imp id List.singleton_inj.mp
      exact room
    · exact limited front other isPrefix

/-- The events of a window that precede one of its events still count when that event comes. -/
theorem within_sublist_recent {event : ε} (inside : time event < start + width) :
    (within time width start log).Sublist (recent time width (time event) log) := by
  refine List.monotone_filter_right _ fun past member => ?_
  simp only [decide_eq_true_eq] at member ⊢
  omega

/-- No window holds more counted events than the limit. -/
theorem Limited.countP_within_le {counted : ε → Prop} [DecidablePred counted]
    (limited : Limited time width limit counted log) (ordered : InOrder time log) (start : Nat) :
    (within time width start log).countP counted ≤ limit := by
  induction log using List.reverseRecOn with
  | nil => simp [within]
  | append_singleton log event induction =>
      obtain ⟨limited, room⟩ := limited_concat.mp limited
      have bound := induction limited (inOrder_concat.mp ordered).1
      by_cases inside : start ≤ time event ∧ time event < start + width
      · have split : within time width start (log ++ [event]) =
            within time width start log ++ [event] := by
          simp [within, List.filter_append, inside]
        rw [split, List.countP_append]
        by_cases counts : counted event
        · have fewer : (within time width start log).countP counted < limit :=
            lt_of_le_of_lt (List.Sublist.countP_le (within_sublist_recent inside.2))
              (room counts)
          simpa [counts] using fewer
        · simpa [counts] using bound
      · have same : within time width start (log ++ [event]) = within time width start log := by
          simp only [within, List.filter_append]
          simp [inside]
        rw [same]
        exact bound

end SlidingWindow
end Foundation
