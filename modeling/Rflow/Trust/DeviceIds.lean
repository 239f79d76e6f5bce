import Rflow.Trust.Store

/-!
# Printed device ids

A device id is printed as 32 pairs of digits joined by colons, always the same number of
characters.  So a printed id with anything behind it tells which device it is and what follows.
-/

namespace Rflow

theorem hexDigit_injective {left right : Nat} (leftDigit : left < 16) (rightDigit : right < 16)
    (same : hexDigit left = hexDigit right) : left = right := by
  have every : ∀ left right : Fin 16, hexDigit left = hexDigit right → left = right := by decide
  exact congrArg Fin.val (every ⟨left, leftDigit⟩ ⟨right, rightDigit⟩ same)

theorem hexByte_injective {left right : UInt8} (same : hexByte left = hexByte right) :
    left = right := by
  obtain ⟨high, low⟩ : hexDigit (left.toNat / 16) = hexDigit (right.toNat / 16) ∧
      hexDigit (left.toNat % 16) = hexDigit (right.toNat % 16) := by
    simpa [hexByte] using same
  have leftByte := left.toNat_lt
  have rightByte := right.toNat_lt
  have highSame := hexDigit_injective (by omega) (by omega) high
  have lowSame := hexDigit_injective (by omega) (by omega) low
  exact UInt8.toNat_inj.mp (by omega)

/-- As many joined pairs of digits with something behind them tell the bytes and what follows. -/
theorem intercalate_hexByte_append {left right : List UInt8} {tail otherTail : List Char}
    (length : left.length = right.length)
    (same : [':'].intercalate (left.map hexByte) ++ tail =
      [':'].intercalate (right.map hexByte) ++ otherTail) : left = right ∧ tail = otherTail := by
  induction left generalizing right with
  | nil =>
      obtain rfl := List.length_eq_zero_iff.mp length.symm
      exact ⟨rfl, by simpa using same⟩
  | cons byte left induction =>
      obtain ⟨other, right, rfl⟩ := List.exists_cons_of_length_eq_add_one length.symm
      have rest : left.length = right.length := by simpa using length
      cases left with
      | nil =>
          obtain rfl := List.length_eq_zero_iff.mp rest.symm
          obtain ⟨head, behind⟩ := List.append_inj same rfl
          have bytes : hexByte byte = hexByte other := by simpa using head
          exact ⟨by rw [hexByte_injective bytes], behind⟩
      | cons next left =>
          obtain ⟨following, right, rfl⟩ := List.exists_cons_of_length_eq_add_one rest.symm
          simp only [List.map_cons, List.intercalate_cons_cons, List.append_assoc] at same
          obtain ⟨head, behind⟩ := List.append_inj same rfl
          obtain ⟨bytes, tails⟩ := induction rest (by simpa using behind)
          exact ⟨by rw [hexByte_injective head, bytes], tails⟩

namespace DeviceId

/-- Printed ids with something behind them are equal when the devices and what follows are. -/
theorem display_append_inj {left right : DeviceId} {tail otherTail : String}
    (same : left.display ++ tail = right.display ++ otherTail) :
    left = right ∧ tail = otherTail := by
  obtain ⟨leftBytes, leftLength⟩ := left
  obtain ⟨rightBytes, rightLength⟩ := right
  have lists := congrArg String.toList same
  simp only [display, String.toList_append, String.toList_ofList] at lists
  obtain ⟨rfl, tails⟩ :=
    intercalate_hexByte_append (leftLength.trans rightLength.symm) lists
  exact ⟨rfl, String.toList_inj.mp tails⟩

theorem display_injective {left right : DeviceId} (same : left.display = right.display) :
    left = right := by
  have padded : left.display ++ "" = right.display ++ "" := by rw [same]
  exact (display_append_inj padded).1

/-- A printed id starts with a digit. -/
theorem exists_display_eq (deviceId : DeviceId) :
    ∃ value < 16, ∃ rest, deviceId.display.toList = hexDigit value :: rest := by
  obtain ⟨bytes, length⟩ := deviceId
  obtain ⟨byte, rest, rfl⟩ := List.exists_cons_of_length_eq_add_one length
  have small := byte.toNat_lt
  refine ⟨byte.toNat / 16, by omega, ?_⟩
  cases rest with
  | nil => exact ⟨[hexDigit (byte.toNat % 16)], by simp [display, hexByte]⟩
  | cons next rest =>
      exact ⟨hexDigit (byte.toNat % 16) :: ':' :: [':'].intercalate ((next :: rest).map hexByte),
        by simp [display, hexByte, List.intercalate_cons_cons]⟩

end DeviceId
end Rflow
