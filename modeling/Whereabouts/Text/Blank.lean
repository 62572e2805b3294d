/-!
# Blanks

A character is blank when the Unicode standard counts it as white space: the controls from tab to
carriage return, the next-line control, and every space and line separator. Trimming takes blanks
off the ends of a text and leaves those inside it alone.
-/
namespace Whereabouts.Text

def isBlank (c : Char) : Bool :=
  (9 ≤ c.toNat && c.toNat ≤ 13) || c.toNat == 0x20 || c.toNat == 0x85 || c.toNat == 0xA0 ||
    c.toNat == 0x1680 || (0x2000 ≤ c.toNat && c.toNat ≤ 0x200A) || c.toNat == 0x2028 ||
    c.toNat == 0x2029 || c.toNat == 0x202F || c.toNat == 0x205F || c.toNat == 0x3000

/-! ### Trimming -/

def dropEndWhile (drops : Char → Bool) (text : List Char) : List Char :=
  (text.reverse.dropWhile drops).reverse

def trimWhile (drops : Char → Bool) (text : List Char) : List Char :=
  dropEndWhile drops (text.dropWhile drops)

def trimStart (text : List Char) : List Char := text.dropWhile isBlank

def trim (text : List Char) : List Char := trimWhile isBlank text

example : trim " a b\u3000\n".toList = "a b".toList := by decide
example : trim "\u0085\t".toList = [] := by decide

end Whereabouts.Text
