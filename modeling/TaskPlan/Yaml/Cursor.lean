/-!
# Places in a document

A cursor is a place in a text with its line and column. Lines end at line feeds,
carriage returns and their pairs, and at the line separators of Unicode.
-/

namespace TaskPlan

namespace Yaml

/-! ### Characters -/

def isBreak (c : Char) : Bool :=
  c == '\n' || c == '\r' || c == '\x85' || c == '\u2028' || c == '\u2029'

def isSpace (c : Char) : Bool := c == ' ' || c == '\t'

def isGap (c : Char) : Bool := isSpace c || isBreak c

def isNameChar (c : Char) : Bool := c.isAlphanum || c == '_' || c == '-'

def isAllowed (c : Char) : Bool :=
  let n := c.toNat
  c == '\t' || c == '\n' || c == '\r' || decide (0x20 ≤ n ∧ n ≤ 0x7E) || n == 0x85 ||
    decide (0xA0 ≤ n ∧ n ≤ 0xFFFD) || decide (0x10000 ≤ n)

/-- A line break as it counts in scalars: all but the separators of Unicode are
line feeds. -/
def breakText (c : Char) : List Char := if c == '\u2028' || c == '\u2029' then [c] else ['\n']

/-! ### Cursors -/

structure Cursor where
  rest : List Char
  index : Nat
  line : Nat
  column : Nat
deriving Repr

namespace Cursor

def start (text : List Char) : Cursor := ⟨text, 0, 0, 0⟩

def peek (c : Cursor) : Option Char := c.rest.head?

def peekAt (c : Cursor) (n : Nat) : Option Char := (c.rest.drop n).head?

def skip (c : Cursor) (n : Nat) : Cursor := ⟨c.rest.drop n, c.index + n, c.line, c.column + n⟩

def skipBreak (c : Cursor) : Cursor :=
  match c.rest with
  | '\r' :: '\n' :: rest => ⟨rest, c.index + 2, c.line + 1, 0⟩
  | _ :: rest => ⟨rest, c.index + 1, c.line + 1, 0⟩
  | [] => c

def run (c : Cursor) (p : Char → Bool) : List Char := c.rest.takeWhile p

def skipRun (c : Cursor) (p : Char → Bool) : Cursor := c.skip (c.run p).length

def isAt (c : Cursor) (p : Char → Bool) : Bool := c.peek.any p

def isGapAt (c : Cursor) (n : Nat) : Bool := (c.peekAt n).all isGap

def isLineEnd (c : Cursor) : Bool := c.peek.all isBreak

/-- Whether a marker of documents is here: three of `mark` at the start of a line. -/
def isMarker (c : Cursor) (mark : Char) : Bool :=
  c.column == 0 && c.rest.take 3 == [mark, mark, mark] && c.isGapAt 3

def isAnyMarker (c : Cursor) : Bool := c.isMarker '-' || c.isMarker '.'

/-- The place after the blanks, the comment and the break at the end of a line; none
if there is anything else. -/
def finishLine? (c : Cursor) : Option Cursor :=
  let c := c.skipRun isSpace
  let c := if c.peek == some '#' then c.skipRun (!isBreak ·) else c
  if c.isLineEnd then some c.skipBreak else none

end Cursor

end Yaml

end TaskPlan
