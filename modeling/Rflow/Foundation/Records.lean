import Mathlib

/-!
# Records of a sequence

A record is an item whose number exceeds those of all items before it.  A receiver that drops what
is not a record passes nothing on twice, and nothing out of order.
-/

namespace Foundation

variable {α : Type*} (number : α → Nat)

/-- The records of a list, after an item with the number `last`. -/
def records (last : Option Nat) : List α → List α
  | [] => []
  | item :: items =>
      if last.any fun last => number item ≤ last then records last items
      else item :: records (some (number item)) items

/-- The items that are no records. -/
def stale (last : Option Nat) : List α → List α
  | [] => []
  | item :: items =>
      if last.any fun last => number item ≤ last then item :: stale last items
      else stale (some (number item)) items

variable {number} {last : Option Nat} {items : List α} {item : α}

theorem records_sublist : (records number last items).Sublist items := by
  induction items generalizing last with
  | nil => exact List.Sublist.refl _
  | cons item items induction =>
      unfold records
      split_ifs
      · exact induction.cons item
      · exact induction.cons_cons item

/-- Every item is a record or stale. -/
theorem records_append_stale_perm :
    (records number last items ++ stale number last items).Perm items := by
  induction items generalizing last with
  | nil => exact List.Perm.refl _
  | cons item items induction =>
      unfold records stale
      split_ifs
      · exact List.perm_middle.trans (induction.cons item)
      · exact induction.cons item

/-- Records have larger numbers than what came before. -/
theorem lt_of_mem_records {before : Nat} (member : item ∈ records number (some before) items) :
    before < number item := by
  induction items generalizing before with
  | nil => cases member
  | cons first items induction =>
      simp only [records, Option.any_some, decide_eq_true_eq] at member
      split_ifs at member with late
      · exact induction member
      · rcases List.mem_cons.mp member with rfl | later
        · exact not_le.mp late
        · exact (not_le.mp late).trans (induction later)

/-- Each record has a larger number than the record before it. -/
theorem records_increase : (records number last items).Pairwise fun first second =>
    number first < number second := by
  induction items generalizing last with
  | nil => exact List.Pairwise.nil
  | cons item items induction =>
      unfold records
      split_ifs
      · exact induction
      · exact List.pairwise_cons.mpr ⟨fun other member => lt_of_mem_records member, induction⟩

/-- A list whose numbers increase consists of records. -/
theorem records_eq_self (increase : items.Pairwise fun first second => number first < number second)
    (later : ∀ before ∈ last, ∀ item ∈ items, before < number item) :
    records number last items = items := by
  induction items generalizing last with
  | nil => rfl
  | cons item items induction =>
      obtain ⟨smaller, increase⟩ := List.pairwise_cons.mp increase
      have record : ¬ last.any (fun last => number item ≤ last) = true := by
        cases last with
        | none => simp
        | some before => simpa using later before rfl item List.mem_cons_self
      rw [records, if_neg record, induction increase fun before same => ?_]
      obtain rfl := Option.mem_some.mp same
      exact smaller

theorem stale_eq_nil_iff : stale number last items = [] ↔ records number last items = items := by
  have together : (records number last items ++ stale number last items).length = items.length :=
    records_append_stale_perm.length_eq
  rw [List.length_append] at together
  constructor
  · intro none
    rw [none, List.length_nil, Nat.add_zero] at together
    exact records_sublist.eq_of_length together
  · intro all
    rw [all] at together
    exact List.length_eq_zero_iff.mp (by omega)

end Foundation
