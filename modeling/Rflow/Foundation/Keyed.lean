import Mathlib

/-!
# Lists of items with distinct keys

Where no key occurs twice, looking a key up finds the one item that has it.  Putting an item updates
the one under its key or appends a new one; putting several, under different keys, updates the items
whose keys are among theirs where they stand and appends the others in order.
-/

namespace Foundation
namespace Keyed

variable {α β κ : Type*} {key : α → κ} {items : List α} {item : α}

/-- No key occurs twice. -/
def Distinct (key : α → κ) (items : List α) : Prop := (items.map key).Nodup

theorem Distinct.eq_of_key {other : α} (distinct : Distinct key items) (member : item ∈ items)
    (otherMember : other ∈ items) (same : key item = key other) : item = other :=
  List.inj_on_of_nodup_map distinct member otherMember same

theorem Distinct.nodup (distinct : Distinct key items) : items.Nodup :=
  List.Nodup.of_map key distinct

/-- What is made of some of the items, each under its old key, has distinct keys. -/
theorem Distinct.filterMap {make : α → Option β} {newKey : β → κ} (distinct : Distinct key items)
    (same : ∀ item value, make item = some value → newKey value = key item) :
    Distinct newKey (items.filterMap make) := by
  have apart := List.pairwise_map.mp distinct
  refine List.pairwise_map.mpr (List.pairwise_filterMap.mpr (apart.imp ?_))
  intro first second different value made other otherMade
  rw [same first value made, same second other otherMade]
  exact different

/-- A lookup finds an item exactly when the list has it under that key. -/
theorem Distinct.find?_eq_some [DecidableEq κ] {wanted : κ} (distinct : Distinct key items) :
    items.find? (fun other => key other = wanted) = some item ↔
      item ∈ items ∧ key item = wanted := by
  constructor
  · intro found
    exact ⟨List.mem_of_find?_eq_some found, by simpa using List.find?_some found⟩
  · rintro ⟨member, rfl⟩
    obtain ⟨other, found⟩ : ∃ other, items.find? (fun other => key other = key item) = some other :=
      Option.isSome_iff_exists.mp (List.find?_isSome.mpr ⟨item, member, by simp⟩)
    have same : key other = key item := by simpa using List.find?_some found
    rw [found, distinct.eq_of_key (List.mem_of_find?_eq_some found) member same]

/-- Exactly one item has the key of a listed one. -/
theorem Distinct.filter_key_iff [DecidableEq κ] (distinct : Distinct key items) :
    items.filter (fun other => key other = key item) = [item] ↔ item ∈ items := by
  constructor
  · intro one
    have member : item ∈ items.filter fun other => key other = key item := by rw [one]; simp
    exact (List.mem_filter.mp member).1
  · intro member
    induction items with
    | nil => cases member
    | cons head rest induction =>
        obtain ⟨fresh, remaining⟩ := List.nodup_cons.mp distinct
        rcases List.mem_cons.mp member with rfl | later
        · have none : rest.filter (fun other => key other = key item) = [] := by
            refine List.filter_eq_nil_iff.mpr fun other listed same => fresh ?_
            exact of_decide_eq_true same ▸ List.mem_map_of_mem listed
          rw [List.filter_cons_of_pos (by simp), none]
        · have different : key head ≠ key item := fun same =>
            fresh (same ▸ List.mem_map_of_mem later)
          rw [List.filter_cons_of_neg (by simpa using different), induction remaining later]

/-! ## Putting items -/

section

variable [DecidableEq κ] {reportKey : β → κ} {update : β → α → α} {make : β → α} {report : β}
  {reports : List β}

/-- Update the item under the key of a report, or append a new one. -/
def put (key : α → κ) (reportKey : β → κ) (update : β → α → α) (make : β → α) (items : List α)
    (report : β) : List α :=
  if reportKey report ∈ items.map key then
    items.map fun item => if key item = reportKey report then update report item else item
  else
    items ++ [make report]

/-- The item as the report under its key updates it, if there is one. -/
def refresh (key : α → κ) (reportKey : β → κ) (update : β → α → α) (reports : List β) (item : α) :
    α :=
  match reports.find? fun report => reportKey report = key item with
  | some report => update report item
  | none => item

/-- Updates keep the key of an item, and a new item has the key of its report. -/
structure Respects (key : α → κ) (reportKey : β → κ) (update : β → α → α) (make : β → α) :
    Prop where
  update : ∀ report item, key (update report item) = key item
  make : ∀ report, key (make report) = reportKey report

theorem refresh_cons :
    refresh key reportKey update (report :: reports) item =
      if key item = reportKey report then update report item
      else refresh key reportKey update reports item := by
  unfold refresh
  by_cases same : reportKey report = key item
  · simp [same]
  · simp [same, Ne.symm same]

theorem refresh_of_reported (distinct : Distinct reportKey reports) (member : report ∈ reports)
    (same : reportKey report = key item) :
    refresh key reportKey update reports item = update report item := by
  rw [refresh, distinct.find?_eq_some.mpr ⟨member, same⟩]

theorem refresh_of_unreported (unreported : key item ∉ reports.map reportKey) :
    refresh key reportKey update reports item = item := by
  have none : reports.find? (fun report => reportKey report = key item) = none := by
    rw [List.find?_eq_none]
    intro report member same
    exact unreported (List.mem_map.mpr ⟨report, member, by simpa using same⟩)
  rw [refresh, none]

theorem Respects.key_refresh (respects : Respects key reportKey update make) (reports : List β)
    (item : α) : key (refresh key reportKey update reports item) = key item := by
  unfold refresh
  split
  · exact respects.update _ _
  · rfl

/-- Putting keeps the keys in their order and appends a new one at most. -/
theorem Respects.map_key_put (respects : Respects key reportKey update make) :
    (put key reportKey update make items report).map key =
      if reportKey report ∈ items.map key then items.map key
      else items.map key ++ [reportKey report] := by
  unfold put
  split_ifs with listed
  · rw [List.map_map]
    refine List.map_congr_left fun item _ => ?_
    by_cases same : key item = reportKey report
    · simp [same, respects.update]
    · simp [same]
  · rw [List.map_append, List.map_singleton, respects.make]

theorem Distinct.put (distinct : Distinct key items)
    (respects : Respects key reportKey update make) :
    Distinct key (put key reportKey update make items report) := by
  rw [Distinct, respects.map_key_put]
  split_ifs with listed
  · exact distinct
  · rw [← List.concat_eq_append]
    exact List.Nodup.concat listed distinct

/-- What an updated item and a new item have, all items have after putting. -/
theorem forall_put {Property : α → Prop} (holds : ∀ item ∈ items, Property item)
    (update_holds : ∀ item ∈ items, key item = reportKey report → Property (update report item))
    (make_holds : Property (make report)) :
    ∀ item ∈ put key reportKey update make items report, Property item := by
  unfold put
  split_ifs
  · intro item member
    obtain ⟨old, listed, rfl⟩ := List.mem_map.mp member
    split_ifs with same
    · exact update_holds old listed same
    · exact holds old listed
  · intro item member
    obtain old | new := List.mem_append.mp member
    · exact holds item old
    · obtain rfl := List.mem_singleton.mp new
      exact make_holds

/-- Putting items under different keys updates those that are listed and appends the others. -/
theorem foldl_put (respects : Respects key reportKey update make)
    (distinct : Distinct reportKey reports) :
    reports.foldl (put key reportKey update make) items =
      items.map (refresh key reportKey update reports) ++
        (reports.filter fun report => reportKey report ∉ items.map key).map make := by
  induction reports generalizing items with
  | nil =>
      rw [List.foldl_nil, List.filter_nil, List.map_nil, List.append_nil]
      exact (List.map_id items).symm
  | cons report rest induction =>
      obtain ⟨fresh, remaining⟩ := List.nodup_cons.mp distinct
      rw [List.foldl_cons, induction remaining, respects.map_key_put]
      by_cases listed : reportKey report ∈ items.map key
      · rw [if_pos listed, put, if_pos listed, List.map_map,
          List.filter_cons_of_neg (by simpa using listed)]
        congr 1
        refine List.map_congr_left fun item _ => ?_
        rw [refresh_cons]
        by_cases same : key item = reportKey report
        · have unreported : key (update report item) ∉ rest.map reportKey := by
            rw [respects.update, same]
            exact fresh
          simp [same, refresh_of_unreported unreported]
        · simp [same]
      · have unreported : key (make report) ∉ rest.map reportKey := by
          rw [respects.make]
          exact fresh
        have others : items.map (refresh key reportKey update rest) =
            items.map (refresh key reportKey update (report :: rest)) := by
          refine List.map_congr_left fun item member => ?_
          rw [refresh_cons, if_neg]
          exact fun same => listed (same ▸ List.mem_map_of_mem member)
        have still : rest.filter (fun other =>
            reportKey other ∉ items.map key ++ [reportKey report]) =
              rest.filter fun other => reportKey other ∉ items.map key := by
          refine List.filter_congr fun other member => ?_
          have different : reportKey other ≠ reportKey report :=
            fun same => fresh (same ▸ List.mem_map_of_mem member)
          simp [different]
        rw [if_neg listed, put, if_neg listed, List.map_append, List.map_singleton,
          refresh_of_unreported unreported, others, still,
          List.filter_cons_of_pos (by simpa using listed), List.map_cons, List.append_assoc,
          List.singleton_append]

end

end Keyed
end Foundation
