import TaskPlan.Json.Basic

/-!
# Compact JSON text

`Json.text` writes a value without spaces. Strings escape the quote, the
backslash and the control characters below a space; every other character stands
for itself.
-/

namespace TaskPlan

namespace Json

def hexDigits (n : Nat) : List Char := Nat.toDigits 16 n

def escape (c : Char) : List Char :=
  if c = '"' then ['\\', '"']
  else if c = '\\' then ['\\', '\\']
  else if c = '\n' then ['\\', 'n']
  else if c = '\r' then ['\\', 'r']
  else if c = '\t' then ['\\', 't']
  else if c.val = 8 then ['\\', 'b']
  else if c.val = 12 then ['\\', 'f']
  else if c.toNat < 32 then
    let digits := hexDigits c.toNat
    ['\\', 'u'] ++ List.replicate (4 - digits.length) '0' ++ digits
  else [c]

def quoted (s : String) : String := String.ofList ('"' :: s.toList.flatMap escape ++ ['"'])

mutual

def text : Json → String
  | .null => "null"
  | .bool true => "true"
  | .bool false => "false"
  | .num n => n.text
  | .str s => quoted s
  | .arr items => "[" ++ String.intercalate "," (itemTexts items) ++ "]"
  | .obj fields => "\x7b" ++ String.intercalate "," (entryTexts fields) ++ "\x7d"
termination_by structural v => v

def itemTexts : List Json → List String
  | [] => []
  | v :: rest => text v :: itemTexts rest
termination_by structural vs => vs

def entryTexts : List (String × Json) → List String
  | [] => []
  | (key, v) :: rest => (quoted key ++ ":" ++ text v) :: entryTexts rest
termination_by structural vs => vs

end

/-- The text of a value inside a sentence: a string without its quotes. -/
def plainText : Json → String
  | .str s => s
  | v => v.text

end Json

end TaskPlan
