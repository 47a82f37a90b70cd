import TaskPlan.Json.Token
import TaskPlan.Yaml.Cursor

/-!
# Scalars

The text of plain, quoted and block scalars. Line breaks inside plain and quoted
scalars and in folded blocks are folded: a single one becomes a space, and of more
the first one is dropped.
-/

namespace TaskPlan

namespace Yaml

inductive ScalarStyle where
  | plain
  | quoted
  | literal
  | folded
deriving DecidableEq, Repr

inductive Gap where
  | blanks (text : List Char)
  /-- a first line break, which may be an escaped one that leaves nothing, and more -/
  | breaks (first rest : List Char)

namespace Gap

def none : Gap := .blanks []

def isBroken : Gap → Bool
  | .blanks _ => false
  | .breaks _ _ => true

def text : Gap → List Char
  | .blanks text => text
  | .breaks ['\n'] [] => [' ']
  | .breaks ['\n'] rest => rest
  | .breaks first rest => first ++ rest

/-- The gap with one more character. Blanks count only before the first break. -/
def add (gap : Gap) (c : Char) : Gap :=
  match gap with
  | .blanks text => if isBreak c then .breaks (breakText c) [] else .blanks (text ++ [c])
  | .breaks first rest => .breaks first (if isBreak c then rest ++ breakText c else rest)

end Gap

/-- Goes over blanks and line breaks. With a `margin`, a tab left of it on a new line
is a fault. -/
def skipGap (margin : Option Nat) : (fuel : Nat) → Cursor → Gap → Option (Cursor × Gap)
  | 0, c, gap => some (c, gap)
  | fuel + 1, c, gap =>
    match c.peek with
    | some x =>
      if isBreak x then skipGap margin fuel c.skipBreak (gap.add x)
      else if isSpace x then
        if x == '\t' && gap.isBroken && margin.any fun m => c.column < m then Option.none
        else skipGap margin fuel (c.skip 1) (gap.add x)
      else some (c, gap)
    | Option.none => some (c, gap)

/-! ### Plain scalars -/

def isFlowMark (c : Char) : Bool :=
  c == ',' || c == '[' || c == ']' || c == '\x7b' || c == '\x7d'

/-- The characters of a plain scalar up to the next gap or the end of the scalar. In
flow collections a `:` must not stand before a mark of theirs. -/
def plainRun (flow : Bool) : List Char → Option (List Char)
  | [] => some []
  | c :: rest =>
    if isGap c then some []
    else if flow && c == ':' && rest.head?.any fun x => isFlowMark x || x == '?' then Option.none
    else if c == ':' && rest.head?.all isGap then some []
    else if flow && isFlowMark c then some []
    else (plainRun flow rest).map (c :: ·)

/-- A scalar that was read, the place after it, and whether lines ended after its
last character. -/
structure Plain where
  text : List Char
  cursor : Cursor
  broken : Bool

/-- The rest of a plain scalar after `text` and a gap. Outside of flow collections it
ends with the first line that starts left of the margin. -/
def readPlain (flow : Bool) (margin : Nat) : (fuel : Nat) → Cursor → List Char → Gap → Option Plain
  | 0, _, _, _ => Option.none
  | fuel + 1, c, text, gap =>
    if c.isAnyMarker || c.peek == some '#' then some ⟨text, c, gap.isBroken⟩
    else do
      let run ← plainRun flow c.rest
      let text := if run.isEmpty then text else text ++ gap.text ++ run
      let gap := if run.isEmpty then gap else Gap.none
      let c := c.skip run.length
      if !c.isAt isGap then return ⟨text, c, gap.isBroken⟩
      let (c, gap) ← skipGap (some margin) (c.rest.length + 1) c gap
      if !flow && c.column < margin then return ⟨text, c, gap.isBroken⟩
      readPlain flow margin fuel c text gap

/-! ### Quoted scalars -/

def escapes : List (Char × Char) :=
  [('0', '\x00'), ('a', '\x07'), ('b', '\x08'), ('t', '\t'), ('\t', '\t'), ('n', '\n'),
    ('v', '\x0b'), ('f', '\x0c'), ('r', '\r'), ('e', '\x1b'), (' ', ' '), ('"', '"'), ('/', '/'),
    ('\\', '\\'), ('N', '\x85'), ('_', '\xa0'), ('L', '\u2028'), ('P', '\u2029')]

def hexWidth? : Char → Option Nat
  | 'x' => some 2
  | 'u' => some 4
  | 'U' => some 8
  | _ => Option.none

def hexNumber? (digits : List Char) : Option Nat :=
  digits.foldlM (fun n c => (Text.hexValue? c).map fun d => 16 * n + d) 0

def readEscape (c : Cursor) : Option (Char × Cursor) := do
  let mark ← c.peek
  match escapes.lookup mark with
  | some x => return (x, c.skip 1)
  | Option.none =>
    let width ← hexWidth? mark
    let digits := (c.rest.drop 1).take width
    let n ← if digits.length = width then hexNumber? digits else Option.none
    if h : n.isValidChar then return (⟨n.toUInt32, by
      have small : n < 4294967296 := by
        rcases h with low | ⟨_, high⟩ <;> omega
      simpa [UInt32.isValidChar, Nat.toUInt32, UInt32.toNat_ofNat', Nat.mod_eq_of_lt small] using h⟩,
      c.skip (width + 1))
    else Option.none

/-- The part of a quoted scalar up to the next gap or the closing quote, and whether
it ends with an escaped line break. `done` holds what was read, the last character
first. -/
def quotedRun (quote : Char) : (fuel : Nat) → Cursor → (done : List Char) →
    Option (List Char × Cursor × Bool)
  | 0, _, _ => Option.none
  | fuel + 1, c, done =>
    match c.peek with
    | Option.none => some (done.reverse, c, false)
    | some x =>
      if isGap x then some (done.reverse, c, false)
      else if x == quote then
        if quote == '\'' && c.peekAt 1 == some '\'' then
          quotedRun quote fuel (c.skip 2) ('\'' :: done)
        else some (done.reverse, c, false)
      else if quote == '"' && x == '\\' then
        if (c.peekAt 1).any isBreak then some (done.reverse, (c.skip 1).skipBreak, true)
        else do
          let (x, c) ← readEscape (c.skip 1)
          quotedRun quote fuel c (x :: done)
      else quotedRun quote fuel (c.skip 1) (x :: done)

def readQuoted (quote : Char) : (fuel : Nat) → Cursor → (text : List Char) →
    Option (List Char × Cursor)
  | 0, _, _ => Option.none
  | fuel + 1, c, text =>
    if c.isAnyMarker || c.rest.isEmpty then Option.none
    else do
      let (run, c, escaped) ← quotedRun quote (c.rest.length + 1) c []
      let text := text ++ run
      if c.peek == some quote then return (text, c.skip 1)
      let gap := if escaped then .breaks [] [] else Gap.none
      let (c, gap) ← skipGap Option.none (c.rest.length + 1) c gap
      readQuoted quote fuel c (text ++ gap.text)

/-! ### Block scalars -/

inductive Chomping where
  | strip
  | clip
  | keep
deriving DecidableEq, Repr

def chomping? : Char → Option Chomping
  | '-' => some .strip
  | '+' => some .keep
  | _ => Option.none

def step? (c : Char) : Option Nat :=
  if '1' ≤ c ∧ c ≤ '9' then some (c.toNat - 48) else Option.none

/-- What follows the mark of a block scalar: how it ends, and how far it is indented,
in either order. -/
def readHeader (c : Cursor) : Option (Chomping × Option Nat × Cursor) :=
  let first := c.peek
  let second := c.peekAt 1
  match first.bind chomping?, first.bind step? with
  | some chomping, _ =>
    if second == some '0' then Option.none
    else
      match second.bind step? with
      | some step => some (chomping, some step, c.skip 2)
      | Option.none => some (chomping, Option.none, c.skip 1)
  | _, some step =>
    match second.bind chomping? with
    | some chomping => some (chomping, some step, c.skip 2)
    | Option.none => some (.clip, some step, c.skip 1)
  | _, _ => if first == some '0' then Option.none else some (.clip, Option.none, c)

/-- Goes over empty lines and the indentation of the next one. Without a known
indentation (`indent = 0`) it goes over all spaces and finds the widest line. -/
def skipEmptyLines (indent : Nat) :
    (fuel : Nat) → Cursor → (widest : Nat) → List Char → Option (Cursor × Nat × List Char)
  | 0, _, _, _ => Option.none
  | fuel + 1, c, widest, breaks =>
    let spaces := (c.run (· == ' ')).length
    let c := c.skip (if indent = 0 then spaces else min spaces (indent - c.column))
    let widest := max widest c.column
    match c.peek with
    | some x =>
      if (indent == 0 || c.column < indent) && x == '\t' then Option.none
      else if isBreak x then skipEmptyLines indent fuel c.skipBreak widest (breaks ++ breakText x)
      else some (c, widest, breaks)
    | Option.none => some (c, widest, breaks)

structure Block where
  text : List Char
  /-- the line break after the last line that is not empty -/
  leading : List Char
  /-- the breaks of the empty lines after it -/
  trailing : List Char
  /-- whether the last line starts with a blank -/
  blank : Bool

def readLines (folded : Bool) (indent : Nat) : (fuel : Nat) → Cursor → Block → Option (Block × Cursor)
  | 0, _, _ => Option.none
  | fuel + 1, c, block =>
    if c.column ≠ indent || c.rest.isEmpty then some (block, c)
    else do
      let blank := c.isAt isSpace
      let joint :=
        if folded && block.leading == ['\n'] && !block.blank && !blank then
          if block.trailing.isEmpty then [' '] else []
        else block.leading
      let line := c.run (!isBreak ·)
      let c := c.skip line.length
      let leading := (c.peek.map breakText).getD []
      let c := c.skipBreak
      let (c, _, trailing) ← skipEmptyLines indent (c.rest.length + 1) c 0 []
      readLines folded indent fuel c
        ⟨block.text ++ joint ++ block.trailing ++ line, leading, trailing, blank⟩

/-- A block scalar, whose mark is behind the cursor, inside a collection indented by
`parent`. -/
def readBlock (folded : Bool) (parent : Option Nat) (c : Cursor) : Option (List Char × Cursor) := do
  let (chomping, step, c) ← readHeader c
  let c ← c.finishLine?
  let indent := match step with
    | some step => parent.getD 0 + step
    | Option.none => 0
  let fuel := c.rest.length + 1
  let (c, widest, trailing) ← skipEmptyLines indent fuel c 0 []
  let least := match parent with
    | some parent => parent + 1
    | Option.none => 1
  let indent := if indent = 0 then max widest least else indent
  let (block, c) ← readLines folded indent fuel c ⟨[], [], trailing, false⟩
  let ending := match chomping with
    | .strip => []
    | .clip => block.leading
    | .keep => block.leading ++ block.trailing
  return (block.text ++ ending, c)

end Yaml

end TaskPlan
