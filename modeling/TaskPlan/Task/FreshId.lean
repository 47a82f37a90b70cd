import TaskPlan.Text.Split

/-!
# Fresh task ids

Random ids of version 4: 32 hexadecimal digits in five groups, of which the first
digit of the third group tells the version and the first of the fourth the variant.
122 bits remain for the random part.
-/

namespace TaskPlan

namespace FreshId

def hexDigits : (count : Nat) → Nat → List Char
  | 0, _ => []
  | count + 1, n => hexDigits count (n / 16) ++ [Nat.digitChar (n % 16)]

def ofBits (bits : Nat) : String :=
  let node := hexDigits 12 bits
  let sequence := Nat.digitChar (8 + (bits >>> 60) % 4) :: hexDigits 3 (bits >>> 48)
  let high := '4' :: hexDigits 3 (bits >>> 62)
  let middle := hexDigits 4 (bits >>> 74)
  let low := hexDigits 8 (bits >>> 90)
  String.ofList (low ++ '-' :: middle ++ '-' :: high ++ '-' :: sequence ++ '-' :: node)

def isHexDigit (c : Char) : Bool := c.isDigit || ('a' ≤ c && c ≤ 'f')

/-- Whether a text has the form of an id: groups of 8, 4, 4, 4 and 12 digits. -/
def isWellFormed (id : String) : Bool :=
  let groups := Text.pieces '-' id.toList
  groups.map List.length == [8, 4, 4, 4, 12] && groups.all fun group => group.all isHexDigit

end FreshId

end TaskPlan
