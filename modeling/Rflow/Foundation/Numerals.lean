import Mathlib

/-!
# Numbers in text

Numbers are printed in a radix of at most sixteen with small letters and without leading zeros, and
are read off the front of a text in capital or small letters.  What is printed can be read back in
front of any text that goes on with another character.  A decimal number that is read without
leading zeros stands there as it is printed.
-/

namespace Foundation
namespace Numerals

/-- The value of a digit in a radix. -/
def digitValue (radix : Nat) (character : Char) : Option Nat :=
  let value :=
    if character.isDigit then some (character.toNat - '0'.toNat)
    else if character.isLower then some (character.toNat - 'a'.toNat + 10)
    else if character.isUpper then some (character.toNat - 'A'.toNat + 10)
    else none
  value.filter (· < radix)

def isDigit (radix : Nat) (character : Char) : Bool := (digitValue radix character).isSome

theorem isDigit_mono {radix larger : Nat} (smaller : radix ≤ larger) {character : Char}
    (digit : isDigit radix character = true) : isDigit larger character = true := by
  obtain ⟨value, found⟩ := Option.isSome_iff_exists.mp digit
  simp only [digitValue, Option.filter_eq_some_iff, decide_eq_true_eq] at found
  refine Option.isSome_iff_exists.mpr ⟨value, ?_⟩
  simp only [digitValue, Option.filter_eq_some_iff, decide_eq_true_eq]
  exact ⟨found.1, found.2.trans_le smaller⟩

/-- A digit is a decimal digit or a letter. -/
theorem toNat_of_isDigit {radix : Nat} {character : Char} (digit : isDigit radix character = true) :
    (48 ≤ character.toNat ∧ character.toNat ≤ 57) ∨
      (65 ≤ character.toNat ∧ character.toNat ≤ 90) ∨
      (97 ≤ character.toNat ∧ character.toNat ≤ 122) := by
  obtain ⟨value, found⟩ := Option.isSome_iff_exists.mp digit
  simp only [digitValue, Option.filter_eq_some_iff] at found
  obtain ⟨raw, -⟩ := found
  split_ifs at raw with decimal small capital
  · exact .inl (Char.isDigit_iff_toNat.mp decimal)
  · simp only [Char.isLower, Bool.and_eq_true, decide_eq_true_eq, UInt32.le_iff_toNat_le,
      ge_iff_le] at small
    exact .inr (.inr small)
  · simp only [Char.isUpper, decide_eq_true_eq, UInt32.le_iff_toNat_le, ge_iff_le] at capital
    exact .inr (.inl capital)

/-- The number that some digits stand for. -/
def numeral (radix : Nat) (digits : List Char) : Nat :=
  digits.foldl (fun value digit => value * radix + (digitValue radix digit).getD 0) 0

/-- Read a number below a bound off the front of a text, up to the first character that is no digit.
It fails when there is no number, when it has too many digits, and when it has a leading zero that
is not allowed. -/
def readNumber (radix : Nat) (maxDigits : Option Nat) (allowZeroPrefix : Bool) (bound : Nat)
    (text : List Char) : Option (Fin bound × List Char) :=
  let digits := text.takeWhile (isDigit radix)
  if digits = [] then
    none
  else if maxDigits.any (· < digits.length) then
    none
  else if !allowZeroPrefix && digits.head? == some '0' && decide (1 < digits.length) then
    none
  else if fits : numeral radix digits < bound then
    some (⟨numeral radix digits, fits⟩, text.dropWhile (isDigit radix))
  else
    none

/-- No digit goes on at the front of the text. -/
def Ends (radix : Nat) (text : List Char) : Prop :=
  ∀ character ∈ text.head?, isDigit radix character = false

variable {radix value bound : Nat} {text rest digits : List Char} {maxDigits : Option Nat}
  {allowZeroPrefix : Bool}

theorem ends_nil : Ends radix [] := by simp [Ends]

theorem ends_cons {character : Char} :
    Ends radix (character :: text) ↔ isDigit radix character = false := by
  simp [Ends]

/-! ## Printed digits -/

theorem digitValue_digitChar (small : radix ≤ 16) (fits : value < radix) :
    digitValue radix value.digitChar = some value := by
  have raw : ∀ digit : Fin 16, digitValue 16 digit.val.digitChar = some digit.val := by decide
  have found := raw ⟨value, by omega⟩
  simp only [digitValue, Option.filter_eq_some_iff, decide_eq_true_eq] at found ⊢
  exact ⟨found.1, fits⟩

theorem isDigit_of_mem_toDigits (positive : 1 < radix) (small : radix ≤ 16) {character : Char}
    (member : character ∈ Nat.toDigits radix value) : isDigit radix character = true := by
  induction value using Nat.strongRecOn with
  | ind value induction =>
      rw [Nat.toDigits_eq_if positive] at member
      split_ifs at member with below
      · obtain rfl := List.mem_singleton.mp member
        rw [isDigit, digitValue_digitChar small below]
        rfl
      · obtain front | last := List.mem_append.mp member
        · exact induction _ (Nat.div_lt_self (by omega) positive) front
        · obtain rfl := List.mem_singleton.mp last
          rw [isDigit, digitValue_digitChar small (Nat.mod_lt _ (by omega))]
          rfl

theorem numeral_concat {digit : Char} :
    numeral radix (digits ++ [digit]) =
      numeral radix digits * radix + (digitValue radix digit).getD 0 := by
  simp [numeral]

theorem numeral_toDigits (positive : 1 < radix) (small : radix ≤ 16) :
    numeral radix (Nat.toDigits radix value) = value := by
  induction value using Nat.strongRecOn with
  | ind value induction =>
      rw [Nat.toDigits_eq_if positive]
      split_ifs with below
      · simp [numeral, digitValue_digitChar small below]
      · rw [numeral_concat, induction _ (Nat.div_lt_self (by omega) positive),
          digitValue_digitChar small (Nat.mod_lt _ (by omega)), Option.getD_some]
        exact Nat.div_add_mod' value radix

/-- Only zero is printed with a zero in front. -/
theorem head_toDigits (positive : 1 < radix) (nonzero : value ≠ 0) :
    (Nat.toDigits radix value).head? ≠ some '0' := by
  induction value using Nat.strongRecOn with
  | ind value induction =>
      rw [Nat.toDigits_eq_if positive]
      split_ifs with below
      · simpa using nonzero
      · rw [List.head?_append_of_ne_nil _ Nat.toDigits_ne_nil]
        refine induction _ (Nat.div_lt_self (by omega) positive) ?_
        exact (Nat.div_pos (by omega) (by omega)).ne'

/-! ## Reading what is printed -/

theorem takeWhile_digits (allDigits : ∀ character ∈ digits, isDigit radix character = true)
    (ends : Ends radix rest) :
    (digits ++ rest).takeWhile (isDigit radix) = digits ∧
      (digits ++ rest).dropWhile (isDigit radix) = rest := by
  rw [List.takeWhile_append_of_pos allDigits, List.dropWhile_append_of_pos allDigits]
  cases rest with
  | nil => simp
  | cons character rest => simp [ends_cons.mp ends]

/-- A printed number is read back. -/
theorem readNumber_toDigits (positive : 1 < radix) (small : radix ≤ 16) (number : Fin bound)
    (short : ∀ most ∈ maxDigits, 0 < most ∧ number.val < radix ^ most)
    (ends : Ends radix rest) :
    readNumber radix maxDigits allowZeroPrefix bound (Nat.toDigits radix number ++ rest) =
      some (number, rest) := by
  obtain ⟨taken, left⟩ : (Nat.toDigits radix number ++ rest).takeWhile (isDigit radix) =
        Nat.toDigits radix number ∧
      (Nat.toDigits radix number ++ rest).dropWhile (isDigit radix) = rest :=
    takeWhile_digits (fun _ => isDigit_of_mem_toDigits positive small) ends
  have fewDigits : maxDigits.any (· < (Nat.toDigits radix number).length) = false := by
    refine Bool.eq_false_iff.mpr fun many => ?_
    obtain ⟨most, given, fewer⟩ := (Option.any_eq_true ..).mp many
    obtain ⟨room, below⟩ := short most given
    have enough := (Nat.length_toDigits_le_iff positive room).mpr below
    simp only [decide_eq_true_eq] at fewer
    omega
  have noZero : (!allowZeroPrefix && (Nat.toDigits radix number).head? == some '0' &&
      decide (1 < (Nat.toDigits radix number).length)) = false := by
    by_cases zero : number.val = 0
    · simp [zero]
    · simp [head_toDigits positive zero]
  simp only [readNumber, taken, left, Nat.toDigits_ne_nil, fewDigits, noZero,
    numeral_toDigits positive small, number.isLt, if_false, Bool.false_eq_true, dite_true]

/-- A number that is printed alone is read to the end. -/
theorem readNumber_toDigits_whole (positive : 1 < radix) (small : radix ≤ 16)
    (number : Fin bound) (short : ∀ most ∈ maxDigits, 0 < most ∧ number.val < radix ^ most) :
    readNumber radix maxDigits allowZeroPrefix bound (Nat.toDigits radix number) =
      some (number, []) := by
  have read : readNumber radix maxDigits allowZeroPrefix bound (Nat.toDigits radix number ++ []) =
      some (number, []) := readNumber_toDigits positive small number short ends_nil
  rwa [List.append_nil] at read

/-- What has been read is a front of digits. -/
theorem readNumber_eq_some {number : Fin bound}
    (found : readNumber radix maxDigits allowZeroPrefix bound text = some (number, rest)) :
    ∃ digits, text = digits ++ rest ∧ digits ≠ [] ∧
      (∀ character ∈ digits, isDigit radix character = true) ∧ Ends radix rest ∧
      (allowZeroPrefix = false → digits.head? = some '0' → digits.length ≤ 1) ∧
      number.val = numeral radix digits := by
  simp only [readNumber] at found
  split_ifs at found with none many zero fits
  obtain ⟨rfl, rfl⟩ := Prod.mk.inj (Option.some.inj found)
  refine ⟨text.takeWhile (isDigit radix), (List.takeWhile_append_dropWhile ..).symm, none,
    fun _ => List.mem_takeWhile_imp, ?_, ?_, rfl⟩
  · intro character head
    have stopped := List.head?_dropWhile_not (isDigit radix) text
    rw [Option.mem_def.mp head] at stopped
    simpa using stopped
  · intro strict leading
    simpa [strict, leading] using zero

theorem readNumber_of_ends (ends : Ends radix text) :
    readNumber radix maxDigits allowZeroPrefix bound text = none := by
  have nothing : text.takeWhile (isDigit radix) = [] := by
    cases text with
    | nil => rfl
    | cons character text => simp [ends_cons.mp ends]
  rw [readNumber, nothing, if_pos rfl]

/-! ## Canonical decimals -/

theorem digitValue_ten {character : Char} (digit : isDigit 10 character = true) :
    ∃ value < 10, digitValue 10 character = some value ∧ value.digitChar = character := by
  obtain ⟨value, found⟩ := Option.isSome_iff_exists.mp digit
  have limits := found
  simp only [digitValue, Option.filter_eq_some_iff, decide_eq_true_eq] at limits
  obtain ⟨raw, below⟩ := limits
  refine ⟨value, below, found, ?_⟩
  have decimal : character.isDigit = true := by
    by_contra other
    simp only [other, if_false] at raw
    split_ifs at raw <;> simp at raw <;> omega
  simp only [decimal, if_true, Option.some.injEq] at raw
  have from_zero : 48 ≤ character.toNat := (Char.isDigit_iff_toNat.mp decimal).1
  rw [← Char.toNat_inj, Nat.toNat_digitChar_of_lt_ten below, ← raw]
  exact Nat.add_sub_cancel' from_zero

/-- Decimal digits without a leading zero are printed digits. -/
theorem toDigits_numeral (nonempty : digits ≠ [])
    (allDigits : ∀ character ∈ digits, isDigit 10 character = true)
    (strict : digits.head? = some '0' → digits.length ≤ 1) :
    Nat.toDigits 10 (numeral 10 digits) = digits := by
  induction digits using List.reverseRecOn with
  | nil => exact absurd rfl nonempty
  | append_singleton front last induction =>
      obtain ⟨value, below, found, shown⟩ := digitValue_ten (allDigits last (by simp))
      rw [numeral_concat, found, Option.getD_some]
      by_cases alone : front = []
      · subst alone
        simp [numeral, Nat.toDigits_of_lt_base below, shown]
      · have unpadded : front.head? ≠ some '0' := by
          intro leading
          have long := strict (by rw [List.head?_append_of_ne_nil _ alone, leading])
          have some_front := List.length_pos_of_ne_nil alone
          rw [List.length_append, List.length_singleton] at long
          omega
        have shorter := induction alone
          (fun character member => allDigits character (List.mem_append_left _ member))
          fun leading => absurd leading unpadded
        have positive : 0 < numeral 10 front := by
          refine Nat.pos_of_ne_zero fun zero => unpadded ?_
          rw [← shorter, zero]
          rfl
        rw [Nat.toDigits_of_base_le (by decide) (by omega),
          show (numeral 10 front * 10 + value) / 10 = numeral 10 front by omega,
          show (numeral 10 front * 10 + value) % 10 = value by omega, shorter, shown]

/-- A decimal number read without leading zeros stands in the text as it is printed. -/
theorem readNumber_canonical {number : Fin bound}
    (found : readNumber 10 maxDigits false bound text = some (number, rest)) :
    text = Nat.toDigits 10 number ++ rest := by
  obtain ⟨digits, rfl, nonempty, allDigits, _, strict, value⟩ := readNumber_eq_some found
  rw [value, toDigits_numeral nonempty allDigits (strict rfl)]

/-! ## Whole texts -/

/-- A text without the plus sign that it may have in front. -/
def unsigned : List Char → List Char
  | '+' :: rest => rest
  | text => text

/-- The decimal number below a bound that a whole text stands for, after an optional plus sign. -/
def parseNumber (bound : Nat) (text : List Char) : Option (Fin bound) :=
  match readNumber 10 none true bound (unsigned text) with
  | some (number, []) => some number
  | _ => none

theorem parseNumber_toDigits (number : Fin bound) :
    parseNumber bound (Nat.toDigits 10 number) = some number := by
  have noSign : unsigned (Nat.toDigits 10 number) = Nat.toDigits 10 number := by
    unfold unsigned
    split
    · rename_i rest signed
      have plus : isDigit 10 '+' = true := isDigit_of_mem_toDigits (by decide) (by decide)
        (signed ▸ List.mem_cons_self : '+' ∈ Nat.toDigits 10 number)
      exact absurd plus (by decide)
    · rfl
  rw [parseNumber, noSign, readNumber_toDigits_whole (by decide) (by decide) number (by simp)]

end Numerals
end Foundation
