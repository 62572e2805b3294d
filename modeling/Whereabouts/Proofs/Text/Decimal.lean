import Mathlib.Data.List.Basic
import Mathlib.Tactic.Ring
import Whereabouts.Text.Blank
import Whereabouts.Text.Decimal
/-!
# Reading decimal numbers back

The number that a run of digits writes is computed from the left, so the last digit can be taken off
it; that is how numbers are written. The writers write digits only, and none of them is a blank.
-/
namespace Whereabouts.Text

/-! ### Digits -/

theorem digit_mod (n : Nat) : digit (n % 10) = digit n := by simp [digit]

@[simp] theorem isDigit_digit (n : Nat) : isDigit (digit n) = true := by
  -- A digit is written of the last place only, so ten cases are enough.
  have small : ∀ n < 10, isDigit (digit n) = true := by decide
  rw [← digit_mod]
  exact small _ (Nat.mod_lt n (by decide))

@[simp] private theorem digitValue_digit (n : Nat) : digitValue (digit n) = n % 10 := by
  have small : ∀ n < 10, digitValue (digit n) = n := by decide
  rw [← digit_mod]
  exact small _ (Nat.mod_lt n (by decide))

theorem isBlank_of_isDigit {c : Char} (isDigit : isDigit c = true) : isBlank c = false := by
  simp only [Text.isDigit, Bool.and_eq_true, decide_eq_true_eq] at isDigit
  simp [isBlank]
  omega

theorem all_fixed (width n : Nat) : ∀ c ∈ fixed width n, isDigit c = true := by
  induction width generalizing n with
  | zero => simp [fixed]
  | succ width ih => simpa [fixed, or_imp, forall_and] using ih (n / 10)

theorem all_digits (n : Nat) : ∀ c ∈ digits n, isDigit c = true := by
  induction n using digits.induct with
  | case1 n small => simp [digits, small]
  | case2 n large ih =>
    rw [digits, if_neg large]
    simpa [or_imp, forall_and] using ih

theorem all_padded (width n : Nat) : ∀ c ∈ padded width n, isDigit c = true := by
  rw [padded]
  split
  · exact all_fixed width n
  · exact all_digits n

/-! ### Values -/

private theorem value_append_digit (run : List Char) (n : Nat) :
    value (run ++ [digit n]) = 10 * value run + n % 10 := by
  simp [value]

private theorem value_fixed (width n : Nat) : value (fixed width n) = n % 10 ^ width := by
  induction width generalizing n with
  | zero => simp [fixed, value, Nat.mod_one]
  | succ width ih =>
    rw [fixed, value_append_digit, ih, Nat.pow_succ', Nat.mod_mul]
    omega

theorem value_fixed_of_lt {width n : Nat} (small : n < 10 ^ width) : value (fixed width n) = n := by
  rw [value_fixed, Nat.mod_eq_of_lt small]

private theorem value_digits (n : Nat) : value (digits n) = n := by
  induction n using digits.induct with
  | case1 n small =>
    rw [digits, if_pos small]
    simp [value, Nat.mod_eq_of_lt small]
  | case2 n large ih =>
    rw [digits, if_neg large, value_append_digit, ih]
    omega

theorem value_padded (width n : Nat) : value (padded width n) = n := by
  rw [padded]
  split
  next small => exact value_fixed_of_lt small
  · exact value_digits n

theorem padded_ne_nil (width n : Nat) : padded (width + 1) n ≠ [] := by
  rw [padded]
  split
  · simp [fixed]
  · rw [digits]
    split <;> simp

/-- Zeros at the end of a run move it to the left. -/
theorem value_append_zeros (run : List Char) (count : Nat) :
    value (run ++ List.replicate count '0') = value run * 10 ^ count := by
  induction count with
  | zero => simp
  | succ count ih =>
    have zero : '0' = digit 0 := rfl
    rw [List.replicate_succ', ← List.append_assoc, zero, value_append_digit, ← zero, ih]
    ring

end Whereabouts.Text
