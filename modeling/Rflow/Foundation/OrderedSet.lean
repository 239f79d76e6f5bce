import Mathlib

/-!
# Ordered sets

A finite set stored as the strictly increasing list of its elements, so that iterating over it has
one fixed order and two sets with the same elements are equal.
-/

namespace Foundation

/-- A finite set with its elements listed in increasing order. -/
structure OrderedSet (α : Type*) [LinearOrder α] where
  /-- The elements in iteration order. -/
  toList : List α
  /-- Iteration visits the elements in strictly increasing order. -/
  increasing : toList.Pairwise (· < ·)
  deriving DecidableEq

namespace OrderedSet

variable {α : Type*} [LinearOrder α]

instance : Membership α (OrderedSet α) where
  mem set item := item ∈ set.toList

instance (item : α) (set : OrderedSet α) : Decidable (item ∈ set) :=
  inferInstanceAs (Decidable (item ∈ set.toList))

theorem mem_def {item : α} {set : OrderedSet α} : item ∈ set ↔ item ∈ set.toList := Iff.rfl

theorem nodup (set : OrderedSet α) : set.toList.Nodup :=
  set.increasing.imp fun before => before.ne

/-- Two ordered sets with the same elements are equal. -/
@[ext]
theorem ext {left right : OrderedSet α} (same : ∀ item, item ∈ left ↔ item ∈ right) :
    left = right := by
  obtain ⟨leftList, leftIncreasing⟩ := left
  obtain ⟨rightList, rightIncreasing⟩ := right
  have permutation : leftList.Perm rightList :=
    (List.perm_ext_iff_of_nodup (leftIncreasing.imp fun before => before.ne)
      (rightIncreasing.imp fun before => before.ne)).mpr same
  have equal : leftList = rightList :=
    permutation.eq_of_pairwise
      (fun first second _ _ before after => (lt_asymm before after).elim)
      leftIncreasing rightIncreasing
  subst equal
  rfl

/-- The set without elements. -/
def empty : OrderedSet α := ⟨[], List.Pairwise.nil⟩

instance : EmptyCollection (OrderedSet α) := ⟨empty⟩

@[simp]
theorem toList_empty : (∅ : OrderedSet α).toList = [] := rfl

@[simp]
theorem not_mem_empty (item : α) : item ∉ (∅ : OrderedSet α) := by
  simp [mem_def]

/-- Add an element, keeping the increasing order. -/
def insert (item : α) (set : OrderedSet α) : OrderedSet α :=
  if present : item ∈ set then
    set
  else
    { toList := set.toList.orderedInsert (· ≤ ·) item
      increasing := by
        have ordered : (set.toList.orderedInsert (· ≤ ·) item).Pairwise (· ≤ ·) :=
          (set.increasing.imp fun before => before.le).orderedInsert item set.toList
        have distinct : (set.toList.orderedInsert (· ≤ ·) item).Nodup :=
          (List.perm_orderedInsert (· ≤ ·) item set.toList).nodup_iff.mpr
            (List.nodup_cons.mpr ⟨present, set.nodup⟩)
        exact (ordered.and distinct).imp fun both => lt_of_le_of_ne both.1 both.2 }

@[simp]
theorem mem_insert {item other : α} {set : OrderedSet α} :
    other ∈ set.insert item ↔ other = item ∨ other ∈ set := by
  unfold insert
  split
  · rename_i present
    constructor
    · exact Or.inr
    · rintro (rfl | member)
      · exact present
      · exact member
  · simp [mem_def]

/-- Drop an element. -/
def remove (item : α) (set : OrderedSet α) : OrderedSet α where
  toList := set.toList.filter (· ≠ item)
  increasing := set.increasing.filter _

@[simp]
theorem mem_remove {item other : α} {set : OrderedSet α} :
    other ∈ set.remove item ↔ other ∈ set ∧ other ≠ item := by
  simp [mem_def, remove]

/-- Add the elements of a list one after the other. -/
def insertAll (items : List α) (set : OrderedSet α) : OrderedSet α :=
  items.foldl (fun current item => current.insert item) set

@[simp]
theorem mem_insertAll {items : List α} {other : α} {set : OrderedSet α} :
    other ∈ set.insertAll items ↔ other ∈ items ∨ other ∈ set := by
  induction items generalizing set with
  | nil => simp [insertAll]
  | cons item items induction =>
      have unfolded : set.insertAll (item :: items) = (set.insert item).insertAll items := rfl
      rw [unfolded, induction, mem_insert, List.mem_cons]
      tauto

@[simp]
theorem empty_insertAll_toList (set : OrderedSet α) :
    (∅ : OrderedSet α).insertAll set.toList = set := by
  ext item
  rw [mem_insertAll, ← mem_def]
  simp

@[simp]
theorem insertAll_self (set : OrderedSet α) : set.insertAll set.toList = set := by
  ext item
  rw [mem_insertAll, ← mem_def, or_self]

end OrderedSet
end Foundation
