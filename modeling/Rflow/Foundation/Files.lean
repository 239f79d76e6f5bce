import Mathlib

/-!
# Files at paths

What is stored at each path, and how creating, removing and renaming a file change that.
-/

namespace Foundation

/-- What is stored at each path, if anything. -/
abbrev Files (π α : Type*) := π → Option α

namespace Files

variable {π α : Type*} [DecidableEq π]

def put (files : Files π α) (path : π) (file : α) : Files π α :=
  Function.update files path (some file)

def remove (files : Files π α) (path : π) : Files π α := Function.update files path none

/-- Create a file where there is none. -/
def create (files : Files π α) (path : π) (file : α) : Option (Files π α) :=
  if (files path).isSome then none else some (files.put path file)

/-- Move a file, in place of what the target holds. -/
def rename (files : Files π α) (source target : π) : Option (Files π α) :=
  (files source).map fun file => (files.remove source).put target file

variable {files later : Files π α} {path source target : π} {file : α}

@[simp]
theorem put_same : files.put path file path = some file := Function.update_self ..

theorem put_ne_none : files.put path file path ≠ none := by
  rw [put_same]
  nofun

@[simp]
theorem remove_same : files.remove path path = none := Function.update_self ..

theorem put_other (apart : source ≠ path) : files.put path file source = files source :=
  Function.update_of_ne apart ..

theorem remove_other (apart : source ≠ path) : files.remove path source = files source :=
  Function.update_of_ne apart ..

theorem remove_eq_none (absent : files source = none) : files.remove path source = none := by
  by_cases same : source = path
  · rw [same, remove_same]
  · rw [remove_other same, absent]

theorem create_eq_some (created : files.create path file = some later) :
    files path = none ∧ later = files.put path file := by
  unfold create at created
  split_ifs at created with taken
  exact ⟨by simpa using taken, (Option.some.inj created).symm⟩

theorem create_eq_none : files.create path file = none ↔ files path ≠ none := by
  unfold create
  split_ifs with taken
  · exact iff_of_true rfl (Option.isSome_iff_ne_none.mp taken)
  · simpa using taken

theorem rename_eq_some (renamed : files.rename source target = some later) :
    ∃ file, files source = some file ∧ later = (files.remove source).put target file := by
  obtain ⟨file, stored, rfl⟩ := Option.map_eq_some_iff.mp renamed
  exact ⟨file, stored, rfl⟩

end Files
end Foundation
