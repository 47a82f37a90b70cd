import TaskPlan.Text.Unicode.Classes

/-!
# Regular expressions

The structure of an expression, and whether it matches somewhere in a text. A set
of places in a text is a number whose bit `i` stands for the place before
character `i`. `Regex.advance` sends the places where a match starts to the places
where it may end; which of several matches would be preferred plays no part.
-/

namespace TaskPlan

/-- A set of code points, with the number of ranges that write it down. -/
structure CharSet where
  contains : Nat → Bool
  weight : Nat

namespace CharSet

def empty : CharSet := ⟨fun _ => false, 0⟩

def ofRange (first last : Nat) : CharSet := ⟨fun n => decide (first ≤ n ∧ n ≤ last), 1⟩

def union (a b : CharSet) : CharSet := ⟨fun n => a.contains n || b.contains n, a.weight + b.weight⟩

def inter (a b : CharSet) : CharSet := ⟨fun n => a.contains n && b.contains n, a.weight + b.weight⟩

def diff (a b : CharSet) : CharSet := ⟨fun n => a.contains n && !b.contains n, a.weight + b.weight⟩

def symmDiff (a b : CharSet) : CharSet :=
  ⟨fun n => a.contains n != b.contains n, a.weight + b.weight⟩

def negate (a : CharSet) : CharSet := ⟨fun n => !a.contains n, a.weight + 1⟩

end CharSet

namespace Regex

inductive Look where
  | textStart
  | textEnd
  | lineStart
  | lineEnd
  /-- the start of a line when a carriage return may end one too -/
  | lineStartReturn
  | lineEndReturn
  | wordEdge
  | notWordEdge
  | wordStart
  | wordEnd
  | wordStartHalf
  | wordEndHalf
deriving DecidableEq, Repr

/-- Whether the condition holds between two characters; there is none before the
start and after the end of the text. `isWord` tells the characters of words. -/
def Look.holds (look : Look) (isWord : Nat → Bool) (before after : Option Char) : Bool :=
  let word (c : Option Char) : Bool := c.any fun c => isWord c.toNat
  match look with
  | .textStart => before.isNone
  | .textEnd => after.isNone
  | .lineStart => before.isNone || before == some '\n'
  | .lineEnd => after.isNone || after == some '\n'
  | .lineStartReturn =>
    before.isNone || before == some '\n' || (before == some '\r' && after != some '\n')
  | .lineEndReturn =>
    after.isNone || after == some '\r' || (after == some '\n' && before != some '\r')
  | .wordEdge => word before != word after
  | .notWordEdge => word before == word after
  | .wordStart => !word before && word after
  | .wordEnd => word before && !word after
  | .wordStartHalf => !word before
  | .wordEndHalf => !word after

end Regex

inductive Regex where
  | chars (set : CharSet)
  /-- a condition, with the characters that count as those of words -/
  | look (condition : Regex.Look) (isWord : Nat → Bool)
  | seq (parts : List Regex)
  | alt (branches : List Regex)
  /-- from `least` to `most` copies, without a bound if that is `none` -/
  | repeated (inner : Regex) (least : Nat) (most : Option Nat)

namespace Regex

/-- The places of a text, given from its character `before` on, that satisfy a
condition on the characters around them. -/
def places (holds : Option Char → Option Char → Bool) : Option Char → List Char → Nat
  | before, [] => (holds before none).toNat
  | before, c :: rest => (holds before (some c)).toNat + 2 * places holds (some c) rest

def iterate (step : Nat → Nat) : (count : Nat) → Nat → Nat
  | 0, here => here
  | count + 1, here =>
    let next := step here
    if next = here then here else iterate step count next

/-- The places after `least` to `most` steps. A match of any number of steps needs
no more of them than the text has characters, apart from those that stay in place,
so `size + 1` stands for a count that is not bounded. -/
def repeatFrom (step : Nat → Nat) (size least : Nat) (most : Option Nat) (starts : Nat) : Nat :=
  let more := match most with
    | none => size + 1
    | some most => min (most - least) (size + 1)
  iterate (fun here => here ||| step here) more (iterate step (min least (size + 1)) starts)

mutual

/-- The places where a match that starts in one of `starts` may end. -/
def advance (text : List Char) : Regex → (starts : Nat) → Nat
  | .chars set, starts =>
    (starts &&& places (fun _ after => after.any fun c => set.contains c.toNat) none text) * 2
  | .look condition isWord, starts => starts &&& places (condition.holds isWord) none text
  | .seq parts, starts => advanceAll text parts starts
  | .alt branches, starts => advanceSome text branches starts
  | .repeated inner least most, starts =>
    repeatFrom (fun here => advance text inner here) text.length least most starts
termination_by structural regex => regex

def advanceAll (text : List Char) : List Regex → (starts : Nat) → Nat
  | [], starts => starts
  | part :: rest, starts => advanceAll text rest (advance text part starts)
termination_by structural regexes => regexes

def advanceSome (text : List Char) : List Regex → (starts : Nat) → Nat
  | [], _ => 0
  | branch :: rest, starts => advance text branch starts ||| advanceSome text rest starts
termination_by structural regexes => regexes

end

def matchesIn (regex : Regex) (text : String) : Bool :=
  let chars := text.toList
  advance chars regex (1 <<< (chars.length + 1) - 1) != 0

/-! ### Size

The room that an expression takes once every copy of a repeated part is written
out, in units of one state of a matcher. -/

def maxSize : Nat := 327680

mutual

def size : Regex → Nat
  | .chars set => 1 + set.weight
  | .look _ _ => 1
  | .seq parts => sizeAll parts + 1
  | .alt branches => sizeAll branches + 2
  | .repeated inner least none => (max least 1) * size inner + 2
  | .repeated inner least (some most) => least * size inner + (most - least) * (size inner + 1) + 1
termination_by structural regex => regex

def sizeAll : List Regex → Nat
  | [] => 0
  | regex :: rest => size regex + sizeAll rest
termination_by structural regexes => regexes

end

end Regex

end TaskPlan
