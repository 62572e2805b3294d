/-!
# Decimal numbers

`fixed` writes a number's last digits to a given width, `padded` writes all of its digits and at
least that many.
-/
namespace Whereabouts.Text

def isDigit (c : Char) : Bool := 48 ≤ c.toNat && c.toNat ≤ 57

def digit (n : Nat) : Char := Char.ofNat (48 + n % 10)

def digitValue (c : Char) : Nat := c.toNat - 48

def fixed : (width : Nat) → (n : Nat) → List Char
  | 0, _ => []
  | width + 1, n => fixed width (n / 10) ++ [digit n]

def digits (n : Nat) : List Char :=
  if n < 10 then [digit n] else digits (n / 10) ++ [digit n]

def padded (width n : Nat) : List Char :=
  if n < Nat.pow 10 width then fixed width n else digits n

/-- The number that a run of digits writes. -/
def value (run : List Char) : Nat := run.foldl (fun n c => 10 * n + digitValue c) 0

@[simp] theorem length_fixed (width n : Nat) : (fixed width n).length = width := by
  induction width generalizing n with
  | zero => rfl
  | succ width ih => simp [fixed, ih]

example : padded 4 87 = "0087".toList := by decide
example : value "0150".toList = 150 := by decide

end Whereabouts.Text
