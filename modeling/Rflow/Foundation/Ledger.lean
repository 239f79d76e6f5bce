import Rflow.Foundation.Machine

/-!
# Ledgers of held items

A ledger records which items each holder has.  Entries give an item to a holder, take one back, or
empty a holder.  The ledgers of interest have a single holder at any time; moving everything from
one holder to the next passes through such ledgers only when the old holder is emptied first.
-/

namespace Foundation

/-- The items of each holder. -/
abbrev Ledger (δ κ : Type*) := δ → Finset κ

namespace Ledger

variable {δ κ : Type*} [DecidableEq δ]

inductive Entry (δ κ : Type*) where
  | give (holder : δ) (item : κ)
  | take (holder : δ) (item : κ)
  | empty (holder : δ)
  deriving DecidableEq, Repr

/-- No item is with two holders. -/
def Exclusive (ledger : Ledger δ κ) : Prop :=
  ∀ item first second, item ∈ ledger first → item ∈ ledger second → first = second

/-- The ledger in which one holder has the items and nobody else has anything. -/
def solely (holder : δ) (items : Finset κ) : Ledger δ κ := Function.update (fun _ => ∅) holder items

@[simp]
theorem solely_self (holder : δ) (items : Finset κ) : solely holder items holder = items := by
  simp [solely]

theorem solely_other {holder other : δ} (different : other ≠ holder) (items : Finset κ) :
    solely holder items other = ∅ := by
  simp [solely, different]

/-- Without items it does not matter who holds them. -/
theorem solely_empty (first second : δ) :
    (solely first ∅ : Ledger δ κ) = solely second ∅ := by
  have nothing (holder : δ) : (solely holder ∅ : Ledger δ κ) = fun _ => ∅ :=
    Function.update_eq_self holder _
  rw [nothing, nothing]

theorem exclusive_solely (holder : δ) (items : Finset κ) : Exclusive (solely holder items) := by
  have only (item : κ) (other : δ) (member : item ∈ solely holder items other) :
      other = holder := by
    by_contra different
    simp [solely_other different] at member
  intro item first second inFirst inSecond
  rw [only item first inFirst, only item second inSecond]

/-! ## Two holders -/

/-- The ledger in which two holders have items and nobody else has anything. -/
def shared (first second : δ) (items more : Finset κ) : Ledger δ κ :=
  Function.update (solely second more) first items

variable {first second third : δ} {items more : Finset κ}

@[simp]
theorem shared_first : shared first second items more first = items := by
  simp [shared]

theorem shared_second (different : second ≠ first) :
    shared first second items more second = more := by
  simp [shared, different]

theorem shared_other (notFirst : third ≠ first) (notSecond : third ≠ second) :
    shared first second items more third = ∅ := by
  simp [shared, notFirst, solely_other notSecond]

@[simp]
theorem update_shared_first (others : Finset κ) :
    Function.update (shared first second items more) first others =
      shared first second others more := by
  simp [shared]

theorem update_shared_second (different : second ≠ first) (others : Finset κ) :
    Function.update (shared first second items more) second others =
      shared first second items others := by
  rw [shared, Function.update_comm different.symm, solely, Function.update_idem]
  rfl

/-- Without items it does not matter who the second holder is. -/
theorem shared_empty (first second third : δ) (items : Finset κ) :
    shared first second items ∅ = shared first third items ∅ := by
  rw [shared, solely_empty second third, ← shared]

theorem shared_empty_empty (first second : δ) :
    (shared first second ∅ ∅ : Ledger δ κ) = fun _ => ∅ := by
  rw [shared, solely, Function.update_eq_self second, Function.update_eq_self first]

/-- Taking everything from a holder that has nothing changes nothing. -/
theorem update_of_empty {ledger : Ledger δ κ} {holder : δ} (nothing : ledger holder = ∅) :
    Function.update ledger holder ∅ = ledger := by
  rw [← nothing]
  exact Function.update_eq_self holder ledger

/-- Changes of one holder by a list of items, one after the other. -/
theorem foldl_update {α : Type*} (holder : δ) (change : α → Finset κ → Finset κ)
    (ledger : Ledger δ κ) (list : List α) :
    list.foldl (fun ledger item => Function.update ledger holder (change item (ledger holder)))
        ledger =
      Function.update ledger holder
        (list.foldl (fun items item => change item items) (ledger holder)) := by
  induction list generalizing ledger with
  | nil => simp
  | cons item list induction => simp [induction]

variable [DecidableEq κ]

theorem foldl_insert (items : Finset κ) (list : List κ) :
    list.foldl (fun items item => insert item items) items = list.toFinset ∪ items := by
  induction list generalizing items with
  | nil => simp
  | cons item list induction => simp [induction, Finset.union_insert]

theorem foldl_erase (items : Finset κ) (list : List κ) :
    list.foldl (fun items item => items.erase item) items = items \ list.toFinset := by
  induction list generalizing items with
  | nil => simp
  | cons item list induction =>
      rw [List.foldl_cons, induction, List.toFinset_cons]
      ext other
      simp only [Finset.mem_sdiff, Finset.mem_erase, Finset.mem_insert]
      tauto

/-! ## Entries -/

/-- Enter one change. -/
def post (ledger : Ledger δ κ) : Entry δ κ → Ledger δ κ
  | .give holder item => Function.update ledger holder (insert item (ledger holder))
  | .take holder item => Function.update ledger holder ((ledger holder).erase item)
  | .empty holder => Function.update ledger holder ∅

@[simp]
theorem post_give (holder : δ) (items : Finset κ) (item : κ) :
    post (solely holder items) (.give holder item) = solely holder (insert item items) := by
  simp [post, solely]

@[simp]
theorem post_take (holder : δ) (items : Finset κ) (item : κ) :
    post (solely holder items) (.take holder item) = solely holder (items.erase item) := by
  simp [post, solely]

@[simp]
theorem post_empty (holder : δ) (items : Finset κ) :
    post (solely holder items) (.empty holder) = solely holder ∅ := by
  simp [post, solely]

/-- Emptying a holder that has nothing changes nothing. -/
theorem post_empty_other {holder other : δ} (different : other ≠ holder) (items : Finset κ) :
    post (solely holder items) (.empty other) = solely holder items := by
  rw [post, ← solely_other different items]
  exact Function.update_eq_self other _

/-- Giving a list of items to the only holder adds them and never shares one. -/
theorem drives_give (holder : δ) (items : Finset κ) (more : List κ) :
    Machine.Drives post Exclusive (solely holder items) (more.map (Entry.give holder))
      (solely holder (more.toFinset ∪ items)) := by
  induction more generalizing items with
  | nil => simpa using Machine.Drives.nil (exclusive_solely holder items)
  | cons item more induction =>
      have rest := induction (insert item items)
      have gathered : (item :: more).toFinset ∪ items = more.toFinset ∪ insert item items := by
        ext other
        simp only [Finset.mem_union, Finset.mem_insert, List.mem_toFinset, List.mem_cons]
        tauto
      rw [← post_give] at rest
      rw [gathered]
      exact Machine.Drives.cons (exclusive_solely holder items) rest

/-- Taking a list of items from the only holder removes them and never shares one. -/
theorem drives_take (holder : δ) (items : Finset κ) (less : List κ) :
    Machine.Drives post Exclusive (solely holder items) (less.map (Entry.take holder))
      (solely holder (items \ less.toFinset)) := by
  induction less generalizing items with
  | nil => simpa using Machine.Drives.nil (exclusive_solely holder items)
  | cons item less induction =>
      have rest := induction (items.erase item)
      have stripped : items \ (item :: less).toFinset = items.erase item \ less.toFinset := by
        ext other
        simp only [Finset.mem_sdiff, Finset.mem_erase, List.mem_toFinset, List.mem_cons]
        tauto
      rw [← post_take] at rest
      rw [stripped]
      exact Machine.Drives.cons (exclusive_solely holder items) rest

end Ledger
end Foundation
