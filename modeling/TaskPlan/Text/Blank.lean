/-!
# Blank characters

The characters with the Unicode property `White_Space`, and texts without those
at their ends.
-/

namespace TaskPlan

namespace Text

def isBlank (c : Char) : Bool :=
  let n := c.toNat
  decide (9 ≤ n ∧ n ≤ 13) || n == 0x20 || n == 0x85 || n == 0xA0 || n == 0x1680 ||
    decide (0x2000 ≤ n ∧ n ≤ 0x200A) || n == 0x2028 || n == 0x2029 || n == 0x202F ||
    n == 0x205F || n == 0x3000

def dropBlanks (s : List Char) : List Char := s.dropWhile isBlank

def trimChars (s : List Char) : List Char :=
  (dropBlanks (dropBlanks s).reverse).reverse

end Text

end TaskPlan
