import TaskPlan.Text.Printable

/-!
# Quoted text

`Text.quoted` writes a text between double quotes so that every character can be
told apart: the quote and the backslash behind a backslash, the common control
characters by letter, and whatever does not show by its number.
-/

namespace TaskPlan

namespace Text

def escape (c : Char) : List Char :=
  if c = '"' then ['\\', '"']
  else if c = '\\' then ['\\', '\\']
  else if c = '\n' then ['\\', 'n']
  else if c = '\r' then ['\\', 'r']
  else if c = '\t' then ['\\', 't']
  else if c.toNat = 0 then ['\\', '0']
  else if isEscaped c then ['\\', 'u', '\x7b'] ++ Nat.toDigits 16 c.toNat ++ ['\x7d']
  else [c]

def quoted (s : String) : String := String.ofList ('"' :: s.toList.flatMap escape ++ ['"'])

end Text

end TaskPlan
