import Mathlib.Data.List.Basic
import Mathlib.Tactic.Common

/-!
# Zero-padded decimal numerals

Numbers printed with a minimal width, and a reader that takes the longest run of
digits. Reading a printed number gives it back whenever no digit follows.
-/

namespace Numeral

/-- The decimal digits of a number, with zeros in front up to `width`. -/
def padded (width n : Nat) : List Char :=
  List.replicate (width - (Nat.toDigits 10 n).length) '0' ++ Nat.toDigits 10 n

/-- The number written by the longest run of digits in front, and what follows. -/
def read (text : List Char) : Option (Nat × List Char) :=
  match text.takeWhile Char.isDigit with
  | [] => none
  | digits => some (Nat.ofDigitChars 10 digits 0, text.dropWhile Char.isDigit)

/-- A padded number has only digits. -/
theorem isDigit_of_mem_padded {width n : Nat} {c : Char} (member : c ∈ padded width n) :
    c.isDigit := by
  rcases List.mem_append.mp member with zero | digit
  · rw [List.eq_of_mem_replicate zero]
    rfl
  · exact Nat.isDigit_of_mem_toDigits (by decide) (by decide) digit

theorem padded_ne_nil (width n : Nat) : padded width n ≠ [] :=
  List.append_ne_nil_of_right_ne_nil _ Nat.toDigits_ne_nil

/-- A padded number is read back. -/
theorem ofDigitChars_padded (width n : Nat) : Nat.ofDigitChars 10 (padded width n) 0 = n := by
  rw [padded, Nat.ofDigitChars_append, Nat.ofDigitChars_replicate_zero, Nat.mul_zero,
    Nat.ofDigitChars_ten_toDigits]

/-- A printed number is read back when no digit follows it. -/
theorem read_padded (width n : Nat) {rest : List Char}
    (ends : ∀ c ∈ rest.head?, c.isDigit = false) :
    read (padded width n ++ rest) = some (n, rest) := by
  have stops : rest.takeWhile Char.isDigit = [] ∧ rest.dropWhile Char.isDigit = rest := by
    cases rest with
    | nil => exact ⟨rfl, rfl⟩
    | cons c rest =>
        have nonDigit := ends c rfl
        simp only [List.takeWhile_cons, List.dropWhile_cons, nonDigit]
        exact ⟨rfl, rfl⟩
  have digits : (padded width n ++ rest).takeWhile Char.isDigit = padded width n := by
    rw [List.takeWhile_append_of_pos fun c => isDigit_of_mem_padded, stops.1, List.append_nil]
  have remaining : (padded width n ++ rest).dropWhile Char.isDigit = rest := by
    rw [List.dropWhile_append_of_pos fun c => isDigit_of_mem_padded, stops.2]
  unfold read
  rw [digits, remaining]
  split
  · next empty => exact absurd empty (padded_ne_nil width n)
  · rw [ofDigitChars_padded]

end Numeral
