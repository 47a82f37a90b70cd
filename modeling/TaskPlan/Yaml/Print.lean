import TaskPlan.Yaml.Value

/-!
# Writing documents

Data in block style: entries of mappings indented by two, items of sequences not
indented under their key. A text is written plainly unless it would read as something
else; one of several lines is written as a literal block.
-/

namespace TaskPlan

namespace Yaml

namespace Print

/-! ### Texts -/

def isPrintable (c : Char) : Bool :=
  let n := c.toNat
  decide (0x20 ≤ n ∧ n ≤ 0x7E) || (decide (0xA0 ≤ n ∧ n ≤ 0xFFFD) && n != 0xFEFF) ||
    decide (0x10000 ≤ n)

def leadingMarks : List Char := "#,[]\x7b\x7d&*!|>'\"%@\x60".toList

/-- Whether a text may not be plain for the marks in it: at its start, a `#` after a
gap or a `:` before one. -/
def hasMarks : (before : Option Char) → List Char → Bool
  | _, [] => false
  | none, c :: rest =>
    leadingMarks.contains c || ("?:-".toList.contains c && rest.head?.all isGap) || hasMarks (some c) rest
  | some before, c :: rest =>
    (c == ':' && rest.head?.all isGap) || (c == '#' && isGap before) || hasMarks (some c) rest

def startsDocument (s : List Char) : Bool := s.take 3 == "---".toList || s.take 3 == "...".toList

def isPlain (s : List Char) : Bool :=
  !s.isEmpty && s.all (fun c => isPrintable c && !isBreak c) && s.head? != some ' ' &&
    s.getLast? != some ' ' && !startsDocument s && !hasMarks none s

def readsDifferently (s : String) : Bool :=
  Plain.hasExtraZeros s.toList || Plain.value? s != some (.str s)

def upperHex (width n : Nat) : List Char :=
  let digits := (Nat.toDigits 16 n).map Char.toUpper
  List.replicate (width - digits.length) '0' ++ digits

def escaped (c : Char) : List Char :=
  let n := c.toNat
  match (escapes.filter fun entry => entry.1 != '\t' && entry.1 != ' ' && entry.1 != '/').find?
      fun entry => entry.2 == c && c.toNat != 0xA0 with
  | some entry => ['\\', entry.1]
  | none =>
    if isPrintable c then [c]
    else if n ≤ 0xFF then '\\' :: 'x' :: upperHex 2 n
    else if n ≤ 0xFFFF then '\\' :: 'u' :: upperHex 4 n
    else '\\' :: 'U' :: upperHex 8 n

def doubleQuoted (s : List Char) : String := String.ofList ('"' :: s.flatMap escaped ++ ['"'])

def singleQuoted (s : List Char) : String :=
  String.ofList ('\'' :: s.flatMap (fun c => if c == '\'' then ['\'', '\''] else [c]) ++ ['\''])

def lineText (s : String) : String :=
  let chars := s.toList
  if !readsDifferently s && isPlain chars then s
  else if chars.all fun c => isPrintable c && !isBreak c then singleQuoted chars
  else doubleQuoted chars

/-- Whether a text can be a literal block: no blank comes before a line break or at
the end. -/
def isBlockText : List Char → Bool
  | [] => true
  | [c] => c != ' '
  | ' ' :: '\n' :: _ => false
  | _ :: rest => isBlockText rest

/-- The mark of a literal block: how far it is indented, if it starts with a blank or
a line break, and how its end is read. -/
def blockMark (s : List Char) : String :=
  let step := if s.head?.any fun c => c == ' ' || c == '\n' then "2" else ""
  let ending := match s.reverse with
    | '\n' :: '\n' :: _ => "+"
    | ['\n'] => "+"
    | '\n' :: _ => ""
    | _ => "-"
  "|" ++ step ++ ending

def isLiteral (s : String) : Bool :=
  let chars := s.toList
  chars.contains '\n' && chars.all (fun c => c == '\n' || isPrintable c) && isBlockText chars

def textLines (s : String) : List String :=
  if isLiteral s then
    let lines := Text.splitOn '\n' s
    let lines := if lines.getLast? == some "" then lines.dropLast else lines
    blockMark s.toList :: lines.map fun line => if line.isEmpty then "" else "  " ++ line
  else if s.toList.contains '\n' then [doubleQuoted s.toList]
  else [lineText s]

/-! ### Collections -/

def indented (lines : List String) : List String :=
  lines.map fun line => if line.isEmpty then line else "  " ++ line

/-- The lines of a value behind a mark of two characters. Those of a collection are
indented as far; those of a text are so already. -/
def behind (mark : String) (value : Json) : List String → List String
  | [] => [mark]
  | first :: rest =>
    (mark ++ first) :: match value with
      | .str _ => rest
      | _ => indented rest

def maxKeyLength : Nat := 128

def isShortKey (key : String) : Bool :=
  key.utf8ByteSize ≤ maxKeyLength && !key.toList.any isBreak

/-- The lines of an entry, from those of its value. Those of a sequence or a mapping
follow the line of the key. -/
def entryLines (key : String) (value : Json) (lines : List String) : List String :=
  if isShortKey key then
    let key := lineText key ++ ":"
    match value, lines with
    | .arr (_ :: _), lines => key :: lines
    | .obj (_ :: _), lines => key :: indented lines
    | _, first :: rest => (key ++ " " ++ first) :: rest
    | _, [] => [key]
  else behind "? " (.str key) (textLines key) ++ behind ": " value lines

mutual

def lines : Json → List String
  | .null => ["null"]
  | .bool b => [if b then "true" else "false"]
  | .num (.int n _) => [toString n]
  | .num (.double x) => [String.ofList (x.text.toList.filter (· != '+'))]
  | .str s => textLines s
  | .arr [] => ["[]"]
  | .arr (item :: rest) => behind "- " item (lines item) ++ itemLines rest
  | .obj [] => ["\x7b\x7d"]
  | .obj ((key, value) :: rest) => entryLines key value (lines value) ++ fieldLines rest
termination_by structural value => value

def itemLines : List Json → List String
  | [] => []
  | item :: rest => behind "- " item (lines item) ++ itemLines rest
termination_by structural items => items

def fieldLines : List (String × Json) → List String
  | [] => []
  | (key, value) :: rest => entryLines key value (lines value) ++ fieldLines rest
termination_by structural fields => fields

end

end Print

def print (value : Json) : String := String.join ((Print.lines value).map (· ++ "\n"))

end Yaml

end TaskPlan
