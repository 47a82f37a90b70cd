import TaskPlan.Pattern.Regex.Engine
import TaskPlan.Pattern.Regex.Property
import TaskPlan.Text.Blank
import TaskPlan.Text.Digits
import TaskPlan.Text.Split

/-!
# Reading regular expressions

`Regex.parse?` reads an expression, or gives nothing if the text is none. Flags
written in an expression hold from there to the end of the group around them, in
the other branches of an alternation too. There are no back references and no
look-around, and a brace that opens no repetition is an error. The engine of
`Regex.standard` refuses an expression whose copies take more room than
`Regex.maxSize` or that nests more than `maxNesting` deep.
-/

namespace TaskPlan

namespace Regex

structure Flags where
  ignoreCase : Bool := false
  multiLine : Bool := false
  dotAll : Bool := false
  /-- classes are those of Unicode and not of ASCII -/
  unicode : Bool := true
  /-- blanks and comments between the parts are skipped -/
  spaced : Bool := false
  /-- a carriage return may end a line -/
  returns : Bool := false

structure Reader where
  rest : List Char
  flags : Flags
  names : List (List Char)

abbrev Read := StateT Reader Option

def maxNesting : Nat := 250

/-- A part of an expression, with how deep it nests. -/
structure Part where
  regex : Regex
  nesting : Nat
  /-- whether the part only sets flags, and so cannot be repeated -/
  isFlags : Bool := false

/-! ### Single characters -/

/-- The text from a `#` to the end of its line is a comment. -/
def skipSpaced : (inComment : Bool) → List Char → List Char
  | _, [] => []
  | true, c :: rest => skipSpaced (c != '\n') rest
  | false, c :: rest =>
    if Text.isBlank c then skipSpaced false rest
    else if c = '#' then skipSpaced true rest
    else c :: rest

def skip : Read Unit :=
  modify fun r => if r.flags.spaced then { r with rest := skipSpaced false r.rest } else r

def peek : Read (Option Char) := return (← get).rest.head?

def advanceOne : Read Unit := modify fun r => { r with rest := r.rest.tail }

def advanceSkip : Read Unit := do
  advanceOne
  skip

def need : Read Char := do
  match ← peek with
  | some c => return c
  | none => failure

def leave? (text : List Char) : Read Bool := do
  match Text.dropHead? text (← get).rest with
  | some rest =>
    modify fun r => { r with rest := rest }
    return true
  | none => return false

def expect (text : List Char) : Read Unit := do
  if ← leave? text then return () else failure

def isMeta (c : Char) : Bool := "\\.+*?()|[]\x7b\x7d^$#&-~".toList.contains c

/-- Whether a backslash before the character gives the character itself. -/
def isEscapable (c : Char) : Bool :=
  isMeta c || (decide (c.toNat < 128) && !c.isAlphanum && c != '<' && c != '>')

def charOf? (n : Nat) : Option Char := if n.isValidChar then some (Char.ofNat n) else none

/-- `count` hexadecimal digits, the first of which is here. -/
def readHexDigits : (count total : Nat) → Read Nat
  | 0, total => return total
  | count + 1, total => do
    let c ← need
    match Text.hexValue? c with
    | none => failure
    | some digit =>
      advanceSkip
      readHexDigits count (total * 16 + digit)

def readHexBraced : (fuel : Nat) → (digits : List Nat) → Read Nat
  | 0, _ => failure
  | fuel + 1, digits => do
    let c ← need
    if c = '\x7d' then
      advanceSkip
      if digits.isEmpty then failure
      else return digits.reverse.foldl (fun total digit => total * 16 + digit) 0
    else match Text.hexValue? c with
      | none => failure
      | some digit =>
        advanceSkip
        readHexBraced fuel (digit :: digits)

def charNumbered (n : Nat) : Read Char :=
  match charOf? n with
  | some c => return c
  | none => failure

/-- A character by its number; `count` digits unless braces hold them. -/
def readHex (count : Nat) : Read Char := do
  advanceSkip
  let c ← need
  let n ← if c = '\x7b' then do
      advanceSkip
      readHexBraced ((← get).rest.length + 1) []
    else readHexDigits count 0
  charNumbered n

/-! ### Escapes -/

/-- What an escape or a single character stands for. `byte` tells that the number
of a character was written, which without Unicode is one byte. -/
inductive Primitive where
  | char (c : Char) (byte : Bool)
  | set (set : CharSet)
  | look (condition : Look)

def readName : (fuel : Nat) → (name : List Char) → Read (List Char)
  | 0, _ => failure
  | fuel + 1, name => do
    let c ← need
    if c = '\x7d' then
      advanceOne
      return name.reverse
    else
      advanceSkip
      readName fuel (c :: name)

def splitName? (separator name : List Char) : Option (List Char × List Char) :=
  match name with
  | [] => none
  | c :: rest =>
    match Text.dropHead? separator (c :: rest) with
    | some value => some ([], value)
    | none => (splitName? separator rest).map fun (key, value) => (c :: key, value)

/-- The set that the braces name, and whether `!=` asks for what is not in it. -/
def propertyNamed (name : List Char) : Option CharSet × Bool :=
  match splitName? ['!', '='] name with
  | some (key, value) => (CharSet.valued? key value, true)
  | none =>
    match splitName? [':'] name with
    | some (key, value) => (CharSet.valued? key value, false)
    | none =>
      match splitName? ['='] name with
      | some (key, value) => (CharSet.valued? key value, false)
      | none => (CharSet.named? name, false)

def readPropertyName : Read (Option CharSet × Bool) := do
  let c ← need
  if c = '\x7b' then
    advanceSkip
    return propertyNamed (← readName ((← get).rest.length + 1) [])
  else if c = '\\' then failure
  else
    advanceSkip
    return (CharSet.named? [c], false)

def readProperty : Read CharSet := do
  let flags := (← get).flags
  if !flags.unicode then failure
  else
    let negated := (← need) == 'P'
    advanceSkip
    let (found, flipped) ← readPropertyName
    match found with
    | none => failure
    | some set =>
      let set := if flags.ignoreCase then set.folded else set
      return if negated != flipped then set.negate else set

/-- The classes `\d`, `\s` and `\w`, negated when the letter is a capital. Without
Unicode a negated class would hold bytes that are no text. -/
def perlClass (unicode : Bool) (c : Char) : Option CharSet :=
  let set := match c.toLower with
    | 'd' => if unicode then CharSet.digit else .asciiDigit
    | 's' => if unicode then CharSet.blank else .asciiBlank
    | _ => if unicode then CharSet.word else .asciiWord
  if c.isUpper then (if unicode then some set.negate else none) else some set

def readWord : (fuel : Nat) → (word : List Char) → Read (List Char)
  | 0, _ => failure
  | fuel + 1, word => do
    let c ← need
    if c.isAlpha || c == '-' then
      advanceSkip
      readWord fuel (c :: word)
    else if c = '\x7d' then
      advanceOne
      return word.reverse
    else failure

/-- The condition that braces name; its first letter is here. -/
def readEdgeName : Read Look := do
  match String.ofList (← readWord ((← get).rest.length + 1) []) with
  | "start" => return .wordStart
  | "end" => return .wordEnd
  | "start-half" => return .wordStartHalf
  | "end-half" => return .wordEndHalf
  | _ => failure

/-- The condition that braces after `\b` may name. A brace that no letter follows
opens a repetition instead. -/
def readWordEdge : Read Look := do
  match ← peek with
  | some '\x7b' =>
    let before ← get
    advanceSkip
    let c ← need
    if c.isAlpha || c == '-' then readEdgeName
    else
      set before
      return .wordEdge
  | _ => return .wordEdge

def readEscape : Read Primitive := do
  advanceOne
  let c ← need
  if c.isDigit then failure
  else if c = 'x' then return .char (← readHex 2) true
  else if c = 'u' then return .char (← readHex 4) false
  else if c = 'U' then return .char (← readHex 8) false
  else if c = 'p' ∨ c = 'P' then return .set (← readProperty)
  else if "dswDSW".toList.contains c then
    advanceOne
    match perlClass (← get).flags.unicode c with
    | some set => return .set set
    | none => failure
  else
    advanceOne
    if isEscapable c then return .char c false
    else match c with
      | 'a' => return .char (Char.ofNat 7) false
      | 'f' => return .char (Char.ofNat 12) false
      | 't' => return .char '\t' false
      | 'n' => return .char '\n' false
      | 'r' => return .char '\r' false
      | 'v' => return .char (Char.ofNat 11) false
      | 'A' => return .look .textStart
      | 'z' => return .look .textEnd
      | 'b' => return .look (← readWordEdge)
      | 'B' => return .look .notWordEdge
      | '<' => return .look .wordStart
      | '>' => return .look .wordEnd
      | _ => failure

/-! ### Bracket expressions -/

structure Members where
  set : CharSet
  count : Nat
  nesting : Nat

namespace Members

def none : Members := ⟨.empty, 0, 0⟩

def add (m : Members) (set : CharSet) (nesting : Nat) : Members :=
  ⟨m.set.union set, m.count + 1, max m.nesting nesting⟩

/-- Several members nest one deeper than a single one. -/
def depth (m : Members) : Nat := if m.count ≤ 1 then m.nesting else m.nesting + 1

end Members

inductive SetOperator where
  | inter
  | diff
  | symmDiff

def SetOperator.apply : SetOperator → CharSet → CharSet → CharSet
  | .inter => CharSet.inter
  | .diff => CharSet.diff
  | .symmDiff => CharSet.symmDiff

/-- The operand and operator before the members that are being read. -/
structure Pending where
  operator : SetOperator
  left : CharSet
  nesting : Nat

def foldWith (flags : Flags) (set : CharSet) : CharSet :=
  if !flags.ignoreCase then set else if flags.unicode then set.folded else set.foldedAscii

def combine (pending : Option Pending) (m : Members) : CharSet × Nat :=
  match pending with
  | none => (m.set, m.depth)
  | some p => (p.operator.apply p.left m.set, max p.nesting m.depth + 1)

/-- Without Unicode a character outside ASCII is none of a class, unless it is
the character of a written number. -/
def allowsChar (flags : Flags) (c : Char) : Bool := flags.unicode || decide (c.toNat < 128)

def readMember : Read Primitive := do
  let c ← need
  if c = '\\' then readEscape
  else
    advanceOne
    return .char c false

/-- A class such as `[:alpha:]` at the head of the text, whether it is negated, and what
follows it. -/
def asciiClass? (text : List Char) : Option (CharSet × Bool × List Char) := do
  let inner ← Text.dropHead? ['[', ':'] text
  let (negated, inner) := match Text.dropHead? ['^'] inner with
    | some rest => (true, rest)
    | none => (false, inner)
  let rest ← Text.dropHead? [':', ']'] (inner.dropWhile (· != ':'))
  let set ← CharSet.ascii? (String.ofList (inner.takeWhile (· != ':')))
  return (set, negated, rest)

/-- Such a class, or nothing and no step if there is none here. -/
def readAsciiClass : Read (Option CharSet) := do
  let r ← get
  match asciiClass? r.rest with
  | none => return none
  | some (named, negated, rest) =>
    set { r with rest := rest }
    let folded := foldWith r.flags named
    return some (if negated then folded.negate else folded)

def peekNext : Read (Option Char) := do
  let r ← get
  return (if r.flags.spaced then skipSpaced false r.rest.tail else r.rest.tail).head?

/-- Whether the member before is one by itself; the hyphen of a range is left behind. -/
def standsAlone : Read Bool := do
  let c ← need
  let next ← peekNext
  if c != '-' || next == some ']' || next == some '-' then return true
  else
    advanceSkip
    let _ ← need
    return false

def readRangeFrom (flags : Flags) (first : Primitive) : Read CharSet := do
  if ← standsAlone then
    match first with
    | .char c _ =>
      if allowsChar flags c then return foldWith flags (.ofRange c.toNat c.toNat) else failure
    | .set set => return set
    | .look _ => failure
  else
    let last ← readMember
    match first, last with
    | .char a _, .char b _ =>
      if a ≤ b ∧ allowsChar flags a ∧ allowsChar flags b then
        return foldWith flags (.ofRange a.toNat b.toNat)
      else failure
    | _, _ => failure

def readRange : Read CharSet := do
  let flags := (← get).flags
  let first ← readMember
  skip
  readRangeFrom flags first

/-- The hyphens that open a bracket expression stand for themselves. -/
def readHyphens : (fuel : Nat) → Members → Read Members
  | 0, _ => failure
  | fuel + 1, m => do
    if (← need) == '-' then
      advanceSkip
      let _ ← need
      readHyphens fuel (m.add (.ofRange 45 45) 0)
    else return m

/-- The start of a bracket expression: whether it is negated, and the members that
only stand for themselves there. -/
def openClass : Read (Bool × Members) := do
  advanceSkip
  let c ← need
  let negated := c == '^'
  if negated then advanceSkip
  let _ ← need
  let m ← readHyphens ((← get).rest.length + 1) .none
  if m.count = 0 ∧ (← need) = ']' then
    advanceSkip
    let _ ← need
    return (negated, m.add (.ofRange 93 93) 0)
  else return (negated, m)

/-- The members of a bracket expression up to its end, with the operation pending
before them. A nested expression takes one `fuel` like any other member. -/
def readClassBody : (fuel : Nat) → Option Pending → Members → Read (CharSet × Nat)
  | 0, _, _ => failure
  | fuel + 1, pending, m => do
    skip
    let c ← need
    let flags := (← get).flags
    let operator (o : SetOperator) : Read (CharSet × Nat) := do
      advanceOne
      advanceOne
      let (left, nesting) := combine pending m
      readClassBody fuel (some ⟨o, foldWith flags left, nesting⟩) .none
    if c = '[' then
      match ← readAsciiClass with
      | some set => readClassBody fuel pending (m.add set 0)
      | none =>
        let (negated, start) ← openClass
        let (set, nesting) ← readClassBody fuel none start
        let set := if negated then set.negate else set
        if negated && !flags.unicode then failure
        readClassBody fuel pending (m.add set (nesting + 1))
    else if c = ']' then
      advanceOne
      return combine pending m
    else
      let next := (← get).rest.tail.head?
      if c = '&' ∧ next = some '&' then operator .inter
      else if c = '-' ∧ next = some '-' then operator .diff
      else if c = '~' ∧ next = some '~' then operator .symmDiff
      else
        let set ← readRange
        readClassBody fuel pending (m.add set 0)

def readClass : Read Part := do
  let flags := (← get).flags
  let (negated, start) ← openClass
  let (set, nesting) ← readClassBody ((← get).rest.length + 1) none start
  if negated && !flags.unicode then failure
  return { regex := .chars (if negated then set.negate else set), nesting := nesting + 1 }

/-! ### Repetitions -/

def readCount : Read (Option Nat) := do
  modify fun r => { r with rest := Text.dropBlanks r.rest }
  let digits := (← get).rest.takeWhile Char.isDigit
  modify fun r => { r with rest := r.rest.dropWhile Char.isDigit }
  skip
  modify fun r => { r with rest := Text.dropBlanks r.rest }
  skip
  if digits.isEmpty then return none
  else
    let n := Text.decimalValue digits
    if n < UInt32.size then return some n else failure

/-- The bounds of a repetition behind its opening brace. -/
def readBoundsInside : Read (Nat × Option Nat) := do
  let _ ← need
  let least ← readCount
  let c ← need
  match least with
  | none => failure
  | some least =>
    if c = ',' then
      advanceSkip
      if (← need) = '\x7d' then return (least, none)
      else
        match ← readCount with
        | none => failure
        | some most => if least ≤ most then return (least, some most) else failure
    else return (least, some least)

def readBounds : Read (Nat × Option Nat) := do
  advanceSkip
  readBoundsInside

def repeatLast (parts : List Part) (least : Nat) (most : Option Nat) : Read (List Part) :=
  match parts with
  | [] => failure
  | part :: rest =>
    if part.isFlags then failure
    else return { regex := .repeated part.regex least most, nesting := part.nesting + 1 } :: rest

/-! ### Groups -/

def setFlag (flags : Flags) (c : Char) (value : Bool) : Option Flags :=
  match c with
  | 'i' => some { flags with ignoreCase := value }
  | 'm' => some { flags with multiLine := value }
  | 's' => some { flags with dotAll := value }
  | 'u' => some { flags with unicode := value }
  | 'x' => some { flags with spaced := value }
  | 'R' => some { flags with returns := value }
  | 'U' => some flags
  | _ => none

/-- The flags up to a colon or the end of the group, which stays here. Each may
stand once, and so may the sign that clears those after it. -/
def readFlags : (fuel : Nat) → (seen : List Char) → Flags → Read (List Char × Flags)
  | 0, _, _ => failure
  | fuel + 1, seen, flags => do
    let c ← need
    if c = ':' ∨ c = ')' then
      if seen.head? = some '-' then failure else return (seen, flags)
    else if seen.contains c then failure
    else
      advanceOne
      if c = '-' then readFlags fuel (c :: seen) flags
      else match setFlag flags c (!seen.contains '-') with
        | none => failure
        | some flags => readFlags fuel (c :: seen) flags

def isNameChar (first : Bool) (c : Char) : Bool :=
  c == '_' || Text.isAlphabetic c.toNat ||
    (!first && (c == '.' || c == '[' || c == ']' || Text.isNumeric c.toNat))

/-- Whether it is a name, and none of the names that other groups have. -/
def isGroupName (names : List (List Char)) (name : List Char) : Bool :=
  match name with
  | [] => false
  | c :: more => isNameChar true c && more.all (isNameChar false) && !names.contains name

/-- The name of a group, which no other group has, up to its closing bracket. -/
def readGroupName : Read Unit := do
  let r ← get
  let name := r.rest.takeWhile (· != '>')
  match r.rest.dropWhile (· != '>') with
  | [] => failure
  | _ :: rest =>
    if isGroupName r.names name then set { r with rest := rest, names := name :: r.names }
    else failure

inductive GroupStart where
  /-- flags for the rest of the group around them -/
  | flags
  | group

/-- The start of a group; its opening bracket is here. The flags it sets hold in
it. -/
def openGroup : Read GroupStart := do
  advanceSkip
  if (← leave? ['?', '=']) || (← leave? ['?', '!']) || (← leave? ['?', '<', '=']) ||
      (← leave? ['?', '<', '!']) then failure
  else if ← leave? ['?', 'P', '<'] then
    readGroupName
    return .group
  else if ← leave? ['?', '<'] then
    readGroupName
    return .group
  else if ← leave? ['?'] then
    let (seen, flags) ← readFlags ((← get).rest.length + 1) [] (← get).flags
    let c ← need
    advanceOne
    modify fun r => { r with flags := flags }
    if c = ':' then return .group
    else if seen.isEmpty then failure
    else return .flags
  else return .group

/-! ### Whole expressions -/

def dotSet (flags : Flags) : Option CharSet :=
  let all := CharSet.ofRange 0 0x10FFFF
  if !flags.unicode then none
  else if flags.dotAll then some all
  else if flags.returns then some ((all.diff (.ofRange 10 10)).diff (.ofRange 13 13))
  else some (all.diff (.ofRange 10 10))

def lineLook (flags : Flags) (atEnd : Bool) : Look :=
  if !flags.multiLine then (if atEnd then .textEnd else .textStart)
  else if flags.returns then (if atEnd then .lineEndReturn else .lineStartReturn)
  else if atEnd then .lineEnd else .lineStart

def lookPart (flags : Flags) (condition : Look) : Part :=
  { regex := .look condition (if flags.unicode then Text.isWord else CharSet.isAsciiWord), nesting := 0 }

def readPrimitive : Read Part := do
  let c ← need
  let flags := (← get).flags
  let charPart (c : Char) : Part :=
    { regex := .chars (foldWith flags (.ofRange c.toNat c.toNat)), nesting := 0 }
  if c = '\\' then
    match ← readEscape with
    | .char c byte =>
      if byte && !flags.unicode && decide (128 ≤ c.toNat) then failure else return charPart c
    | .set set => return { regex := .chars set, nesting := 0 }
    | .look condition => return lookPart flags condition
  else
    advanceOne
    if c = '.' then
      match dotSet flags with
      | some set => return { regex := .chars set, nesting := 0 }
      | none => failure
    else if c = '^' then return lookPart flags (lineLook flags false)
    else if c = '$' then return lookPart flags (lineLook flags true)
    else return charPart c

def sequence (parts : List Part) : Part :=
  match parts with
  | [] => { regex := .seq [], nesting := 0 }
  | [part] => { part with isFlags := false }
  | _ =>
    { regex := .seq (parts.reverse.map Part.regex)
      nesting := (parts.map Part.nesting).foldl max 0 + 1 }

def alternation (branches : List Part) : Part :=
  match branches with
  | [branch] => branch
  | _ =>
    { regex := .alt (branches.reverse.map Part.regex)
      nesting := (branches.map Part.nesting).foldl max 0 + 1 }

/-- The expression up to the end of its group, which stays here, or of the text.
Every step leaves a character, so the length of the text is `fuel` enough. -/
def readBody : (fuel : Nat) → (branches parts : List Part) → Read Part
  | 0, _, _ => failure
  | fuel + 1, branches, parts => do
    skip
    match ← peek with
    | none => return alternation (sequence parts :: branches)
    | some c =>
      if c = ')' then return alternation (sequence parts :: branches)
      else if c = '|' then
        advanceOne
        readBody fuel (sequence parts :: branches) []
      else if c = '(' then
        let outer := (← get).flags
        match ← openGroup with
        | .flags =>
          readBody fuel branches ({ regex := .seq [], nesting := 0, isFlags := true } :: parts)
        | .group =>
          let inner ← readBody fuel [] []
          expect [')']
          modify fun r => { r with flags := outer }
          readBody fuel branches ({ regex := inner.regex, nesting := inner.nesting + 1 } :: parts)
      else if c = '[' then
        let part ← readClass
        readBody fuel branches (part :: parts)
      else if c = '?' ∨ c = '*' ∨ c = '+' then
        advanceOne
        let parts ← repeatLast parts (if c = '+' then 1 else 0) (if c = '?' then some 1 else none)
        let _ ← leave? ['?']
        readBody fuel branches parts
      else if c = '\x7b' then
        let (least, most) ← readBounds
        let parts ← repeatLast parts least most
        expect ['\x7d']
        skip
        let _ ← leave? ['?']
        readBody fuel branches parts
      else
        let part ← readPrimitive
        readBody fuel branches (part :: parts)

/-- What the reader makes of a text, and where it stops. -/
def readFrom? (pattern : String) : Option (Part × Reader) :=
  (readBody (pattern.toList.length + 1) [] []).run ⟨pattern.toList, {}, []⟩

def parse? (pattern : String) : Option Part :=
  (readFrom? pattern).bind fun (part, reader) => if reader.rest.isEmpty then some part else none

def Part.fits (part : Part) : Bool :=
  decide (part.nesting ≤ maxNesting) && decide (part.regex.size ≤ maxSize)

/-- The engine that runs. Its syntax is that of the documentation, but of the properties of
Unicode it only knows those of `TaskPlan.Pattern.Regex.Property`, and the room that an
expression takes is an estimate. -/
instance standard : Engine where
  Expression := Part
  read? := parse?
  accepts := Part.fits
  finds part text := part.regex.matchesIn text

end Regex

end TaskPlan
