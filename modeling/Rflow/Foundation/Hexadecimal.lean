import Rflow.Foundation.Numerals

/-!
# Hexadecimal digits in either case

A fixed number of digits, written in small letters, stands for each number that fits.  Digits in
either case stand for a number exactly if they are its digits up to their case.
-/

namespace Foundation
namespace Numerals

variable {value width : Nat} {character : Char} {digits : List Char}

/-- The last `width` hexadecimal digits of a number. -/
def hexDigits : Nat → Nat → List Char
  | 0, _ => []
  | width + 1, value => hexDigits width (value / 16) ++ [(value % 16).digitChar]

@[simp]
theorem length_hexDigits : (hexDigits width value).length = width := by
  induction width generalizing value with
  | zero => rfl
  | succ width induction => simp [hexDigits, induction]

/-- A character stands for a digit exactly if it is that digit up to its case. -/
theorem digitValue_sixteen_iff (fits : value < 16) :
    digitValue 16 character = some value ↔ character.toLower = value.digitChar := by
  have table : ∀ code < 128, ∀ value < 16,
      digitValue 16 (Char.ofNat code) = some value ↔
        (Char.ofNat code).toLower = value.digitChar := by decide +kernel
  by_cases ascii : character.toNat < 128
  · simpa using table character.toNat ascii value fits
  · refine iff_of_false (fun found => ?_) fun same => ?_
    · have range := toNat_of_isDigit (Option.isSome_iff_exists.mpr ⟨value, found⟩)
      omega
    · have small : ∀ value < 16, value.digitChar.toNat < 128 := by decide
      have unchanged : character.toLower = character := by
        refine Char.toLower_eq_of_not_isUpper fun capital => ascii ?_
        simp only [Char.isUpper, decide_eq_true_eq, UInt32.le_iff_toNat_le] at capital
        exact capital.2.trans_lt (by decide)
      exact ascii (unchanged ▸ same ▸ small value fits)

theorem digitValue_lt {radix : Nat} (found : digitValue radix character = some value) :
    value < radix := by
  simp only [digitValue, Option.filter_eq_some_iff, decide_eq_true_eq] at found
  exact found.2

theorem getD_digitValue_lt {radix : Nat} (positive : 0 < radix) :
    (digitValue radix character).getD 0 < radix := by
  cases found : digitValue radix character with
  | none => exact positive
  | some value => exact digitValue_lt found

theorem numeral_lt {radix : Nat} (positive : 0 < radix) :
    numeral radix digits < radix ^ digits.length := by
  induction digits using List.reverseRecOn with
  | nil => simp [numeral]
  | append_singleton front last induction =>
      have digit : (digitValue radix last).getD 0 < radix := getD_digitValue_lt positive
      rw [numeral_concat, List.length_append, List.length_singleton, pow_succ]
      nlinarith

/-- Digits stand for a number exactly if they are its digits up to their case. -/
theorem numeral_sixteen_iff (fits : value < 16 ^ digits.length) :
    (∀ digit ∈ digits, isDigit 16 digit = true) ∧ numeral 16 digits = value ↔
      digits.map Char.toLower = hexDigits digits.length value := by
  induction digits using List.reverseRecOn generalizing value with
  | nil =>
      obtain rfl : value = 0 := by simpa using fits
      simp [numeral, hexDigits]
  | append_singleton front last induction =>
      have quotient : value / 16 < 16 ^ front.length := by
        rw [List.length_append, List.length_singleton, pow_succ] at fits
        exact Nat.div_lt_of_lt_mul (by omega)
      have remainder : value % 16 < 16 := Nat.mod_lt _ (by decide)
      have lasts : isDigit 16 last = true ∧ (digitValue 16 last).getD 0 = value % 16 ↔
          last.toLower = (value % 16).digitChar := by
        rw [← digitValue_sixteen_iff remainder, isDigit]
        cases digitValue 16 last <;> simp
      have small : (digitValue 16 last).getD 0 < 16 := getD_digitValue_lt (by decide)
      rw [List.length_append, List.length_singleton, hexDigits, List.map_append,
        List.map_singleton, List.append_singleton_inj, ← induction quotient, ← lasts,
        numeral_concat]
      simp only [List.mem_append, List.mem_singleton]
      constructor
      · rintro ⟨allDigits, rfl⟩
        refine ⟨⟨fun digit member => allDigits digit (.inl member), by omega⟩,
          allDigits last (.inr rfl), by omega⟩
      · rintro ⟨⟨fronts, high⟩, digit, low⟩
        refine ⟨?_, by rw [high, low]; omega⟩
        rintro other (member | rfl)
        · exact fronts other member
        · exact digit

/-! ## Bytes -/

/-- The bytes that so many pairs of digits stand for. -/
def readBytes (digits : List Char) (count : Nat) : List UInt8 :=
  (List.range count).map fun index =>
    UInt8.ofNat (numeral 16 ((digits.drop (index * 2)).take 2))

@[simp]
theorem length_readBytes {count : Nat} : (readBytes digits count).length = count := by
  simp [readBytes]

theorem readBytes_succ {first second : Char} {count : Nat} :
    readBytes (first :: second :: digits) (count + 1) =
      UInt8.ofNat (numeral 16 [first, second]) :: readBytes digits count := by
  simp [readBytes, List.range_succ_eq_map, Nat.succ_mul]

/-- Pairs of digits stand for bytes exactly if they are their digits up to their case. -/
theorem readBytes_iff {bytes : List UInt8} (pairs : digits.length = bytes.length * 2) :
    (∀ digit ∈ digits, isDigit 16 digit = true) ∧ readBytes digits bytes.length = bytes ↔
      digits.map Char.toLower = bytes.flatMap fun byte => hexDigits 2 byte.toNat := by
  induction bytes generalizing digits with
  | nil =>
      obtain rfl : digits = [] := by simpa using pairs
      simp [readBytes]
  | cons byte bytes induction =>
      obtain ⟨first, second, digits, rfl⟩ :
          ∃ first second rest, digits = first :: second :: rest := by
        match digits with
        | [] => simp at pairs
        | [_] => simp at pairs; omega
        | first :: second :: rest => exact ⟨first, second, rest, rfl⟩
      have shorter : digits.length = bytes.length * 2 := by
        simp only [List.length_cons] at pairs
        omega
      have below : numeral 16 [first, second] < 2 ^ 8 := numeral_lt (by decide)
      have front : UInt8.ofNat (numeral 16 [first, second]) = byte ↔
          numeral 16 [first, second] = byte.toNat := by
        rw [← UInt8.toNat_inj, UInt8.toNat_ofNat', Nat.mod_eq_of_lt below]
      have head : (∀ digit ∈ [first, second], isDigit 16 digit = true) ∧
          numeral 16 [first, second] = byte.toNat ↔
            [first, second].map Char.toLower = hexDigits 2 byte.toNat :=
        numeral_sixteen_iff byte.toNat_lt
      have apart : (first :: second :: digits).map Char.toLower =
            (byte :: bytes).flatMap (fun byte => hexDigits 2 byte.toNat) ↔
          [first, second].map Char.toLower = hexDigits 2 byte.toNat ∧
            digits.map Char.toLower = bytes.flatMap fun byte => hexDigits 2 byte.toNat := by
        rw [List.flatMap_cons]
        constructor
        · intro same
          exact List.append_inj (by simpa using same) (by simp)
        · rintro ⟨fronts, rests⟩
          rw [← fronts, ← rests]
          rfl
      rw [apart, ← head, ← induction shorter, List.length_cons, readBytes_succ, List.cons.injEq,
        front]
      simp only [List.forall_mem_cons]
      constructor
      · rintro ⟨⟨high, low, others⟩, value, bytes⟩
        exact ⟨⟨⟨high, low, nofun⟩, value⟩, others, bytes⟩
      · rintro ⟨⟨⟨high, low, -⟩, value⟩, others, bytes⟩
        exact ⟨⟨high, low, others⟩, value, bytes⟩

end Numerals
end Foundation
