/-!
# Path patterns

`Glob.isMatch` decides whether a pattern matches a path, byte by byte: `?` is one
byte of a component, `*` any bytes of one, `**` as a component of its own any number
of components, `[…]` a class, `{…}` alternatives, and `!` at the start negates.

The search keeps one place to go back to for the last star and one for the last
`**`, and for braces the end of the longest alternative that matched. It therefore
does not try every way to match a pattern with stars inside braces; which it tries
is part of what a pattern means. Strategies take any `Glob.Matcher`; this one is
`Glob.standard`.
-/

namespace TaskPlan

namespace Glob

/-- Where to go on when what follows a star does not match: the star, and one past
the path position it was tried at. Nothing is to be done if that is 0. -/
structure Star where
  glob : Nat
  path : Nat

namespace Star

def none : Star := ⟨0, 0⟩

end Star

structure Place where
  glob : Nat
  path : Nat
  star : Star
  globstar : Star

/-- A place, with those of the braces that are open there, the innermost first, and
the end of the longest alternative that matched. -/
structure Search where
  place : Place
  braces : List Place
  longest : Nat

inductive Step where
  | go (search : Search)
  | stuck (search : Search)
  | invalid

def slash : UInt8 := 47

def maxBraces : Nat := 10

def byteAt (bytes : Array UInt8) (i : Nat) : UInt8 := bytes.getD i 0

def isAt (bytes : Array UInt8) (i : Nat) (c : Char) : Bool := bytes[i]? == some c.toNat.toUInt8

/-- The end of the run of `/**` components that starts at `i`. -/
def skipGlobstars (glob : Array UInt8) : (fuel : Nat) → (i : Nat) → Nat
  | 0, i => i
  | fuel + 1, i =>
    if isAt glob i '/' && isAt glob (i + 1) '*' && isAt glob (i + 2) '*' then
      skipGlobstars glob fuel (i + 3)
    else i

/-- The byte at `i`, or the one that a backslash there stands for, with its place. A
backslash at the end stands for nothing. -/
def unescape (glob : Array UInt8) (i : Nat) : Option (UInt8 × Nat) :=
  if isAt glob i '\\' then
    match glob[i + 1]? with
    | none => none
    | some c =>
      let c := if c = 97 then 97 else if c = 98 then 8 else if c = 110 then 10
        else if c = 114 then 13 else if c = 116 then 9 else c
      some (c, i + 1)
  else some (byteAt glob i, i)

inductive Skip where
  | comma (i : Nat)
  | closing (i : Nat)
  | unclosed

/-- From inside braces to the end of them, or past the next comma of theirs;
`depth` counts the braces still open. -/
def skipBraces (glob : Array UInt8) (stopAtComma : Bool) :
    (fuel : Nat) → (depth : Nat) → (inClass : Bool) → (i : Nat) → Skip
  | 0, _, _, _ => .unclosed
  | fuel + 1, depth, inClass, i =>
    if depth = 0 then .closing i
    else match glob[i]? with
      | none => .unclosed
      | some c =>
        let next := skipBraces glob stopAtComma fuel
        if c = 123 ∧ !inClass then next (depth + 1) inClass (i + 1)
        else if c = 125 ∧ !inClass then next (depth - 1) inClass (i + 1)
        else if c = 44 ∧ stopAtComma ∧ depth = 1 ∧ !inClass then .comma (i + 1)
        else if c = 42 ∧ !inClass then
          if isAt glob (i + 1) '*' then
            next depth inClass (skipGlobstars glob glob.size (i + 2))
          else next depth inClass (i + 1)
        else if c = 91 ∧ !inClass then next depth true (i + 1)
        else if c = 93 then next depth false (i + 1)
        else if c = 92 then next depth inClass (i + 2)
        else next depth inClass (i + 1)

def skipFrom (glob : Array UInt8) (stopAtComma : Bool) (i : Nat) : Skip :=
  skipBraces glob stopAtComma (glob.size + 2) 1 false i

/-- Goes on with the byte after the one that the last star was tried with. -/
def Place.backtrack (p : Place) : Place := { p with glob := p.star.glob, path := p.star.path }

def Place.canBacktrack (p : Place) (path : Array UInt8) : Bool :=
  decide (0 < p.star.path ∧ p.star.path ≤ path.size)

/-- Leaves the innermost braces at the end of the longest alternative; stars inside
them are no longer tried. -/
def Search.close (s : Search) : Search :=
  match s.braces with
  | [] => s
  | opened :: outer =>
    { place := { s.place with path := s.longest, star := opened.star, globstar := opened.globstar }
      braces := outer
      longest := if outer.isEmpty then 0 else s.longest }

def stepStar (glob path : Array UInt8) (s : Search) : Step :=
  let p := s.place
  let double := isAt glob (p.glob + 1) '*'
  let here := if double then skipGlobstars glob glob.size (p.glob + 2) - 2 else p.glob
  let star : Star := ⟨here, p.path + 1⟩
  let (next, globstar) :=
    if double then
      let i := here + 2
      if i = glob.size then (i, star)
      else if (i < 3 || byteAt glob (i - 3) == slash) && byteAt glob i == slash then
        let afterSlash := p.path = 0 ∨ (p.path < path.size ∧ byteAt path (p.path - 1) = slash)
        (if afterSlash then i + 1 else i, star)
      else (i, p.globstar)
    else (here + 1, p.globstar)
  let p : Place := { glob := next, path := p.path, star := star, globstar := globstar }
  -- a single star ends at a separator: back to the last `**`, or no way back at all
  let p :=
    if globstar.path != star.path && isAt path p.path '/' then
      if 0 < globstar.path ∧ p.path + 1 < path.size then
        { p with glob := globstar.glob, star := { star with glob := globstar.glob } }
      else { p with star := { star with path := 0 } }
    else p
  if !s.braces.isEmpty && (isAt glob p.glob ',' || isAt glob p.glob '\x7d') then
    match skipFrom glob false p.glob with
    | .unclosed => .invalid
    | .comma i => .go { s with place := { p with glob := i } }
    | .closing i => .go { s with place := { p with glob := i } }
  else .go { s with place := p }

/-- The ranges of a class up to its closing bracket, and whether one of them holds
`c`; a bracket right at the start stands for itself. -/
def readClass (glob : Array UInt8) (c : UInt8) :
    (fuel : Nat) → (first found : Bool) → (i : Nat) → Option (Bool × Nat)
  | 0, _, _, _ => none
  | fuel + 1, first, found, i =>
    if glob.size ≤ i then none
    else if !first && isAt glob i ']' then some (found, i + 1)
    else do
      let (low, i) ← unescape glob i
      let i := i + 1
      let (high, i) ←
        if decide (i + 1 < glob.size) && isAt glob i '-' && !isAt glob (i + 1) ']' then do
          let (high, i) ← unescape glob (i + 1)
          pure (high, i + 1)
        else pure (low, i)
      readClass glob c fuel false (found || decide (low ≤ c ∧ c ≤ high)) i

def stepClass (glob : Array UInt8) (c : UInt8) (s : Search) : Step :=
  let i := s.place.glob + 1
  let negated := isAt glob i '^' || isAt glob i '!'
  let i := if negated then i + 1 else i
  match readClass glob c (glob.size + 1) true false i with
  | none => .invalid
  | some (found, i) =>
    let p := { s.place with glob := i }
    if found != negated then .go { s with place := { p with path := p.path + 1 } }
    else .stuck { s with place := p }

def stepByte (glob : Array UInt8) (c : UInt8) (s : Search) : Step :=
  match unescape glob s.place.glob with
  | none => .invalid
  | some (wanted, i) =>
    let s := { s with place := { s.place with glob := i } }
    if wanted = c then
      -- braces that a star in them had left open end here
      let s :=
        if !s.braces.isEmpty && decide (0 < i) && isAt glob (i - 1) '\x7d' then
          Search.close { s with longest := s.place.path }
        else s
      let p := s.place
      .go { s with place := { p with
        glob := p.glob + 1
        path := p.path + 1
        globstar := if wanted = slash then p.globstar else { p.globstar with path := 0 } } }
    else .stuck s

def step (glob path : Array UInt8) (s : Search) : Step :=
  let p := s.place
  match glob[p.glob]? with
  | none => .stuck s
  | some part =>
    if part = 42 then stepStar glob path s
    else if part = 125 ∧ !s.braces.isEmpty then
      .go (Search.close { s with
        longest := max s.longest p.path
        place := { p with glob := p.glob + 1 } })
    else if part = 44 ∧ !s.braces.isEmpty then
      let start := (s.braces.head?.map Place.path).getD 0
      .go { s with
        longest := max s.longest p.path
        place := { glob := p.glob + 1, path := start, star := .none, globstar := .none } }
    else match path[p.path]? with
      | none => .stuck s
      | some c =>
        if part = 63 then
          if c = slash then .stuck s
          else .go { s with place := { p with glob := p.glob + 1, path := p.path + 1 } }
        else if part = 91 then stepClass glob c s
        else if part = 123 then
          if maxBraces ≤ s.braces.length then .invalid
          else .go { s with
            place := { glob := p.glob + 1, path := p.path, star := .none, globstar := .none }
            braces := p :: s.braces }
        else stepByte glob c s

/-- Where to go on from a part that does not match: after the last star, with the
next alternative, or before the innermost braces. -/
def recover (glob path : Array UInt8) (s : Search) : Option Search :=
  if s.place.canBacktrack path then some { s with place := s.place.backtrack }
  else match s.braces with
    | [] => none
    | opened :: outer =>
      match skipFrom glob true s.place.glob with
      | .unclosed => none
      | .comma i => some { s with place := { s.place with glob := i, path := opened.path } }
      | .closing i =>
        if 0 < s.longest then some (Search.close { s with place := { s.place with glob := i } })
        else if opened.canBacktrack path then
          some { s with place := opened.backtrack, braces := outer }
        else none

def search (glob path : Array UInt8) : (fuel : Nat) → Search → Option Bool
  | 0, _ => some false
  | fuel + 1, s =>
    if glob.size ≤ s.place.glob ∧ path.size ≤ s.place.path then some true
    else match step glob path s with
      | .go next => search glob path fuel next
      | .invalid => none
      | .stuck next =>
        match recover glob path next with
        | some next => search glob path fuel next
        | none => some false

/-- Steps enough for any search of a pattern and a path of these sizes. -/
def enough (glob path : Nat) : Nat :=
  let places := (glob + 2) * (path + 2)
  places * places * places

/-- Whether a pattern matches a whole path. Text that is no pattern matches nothing. -/
def isMatch (pattern path : String) : Bool :=
  let glob := pattern.toUTF8.data
  let path := path.toUTF8.data
  let bangs := (glob.toList.takeWhile (· == 33)).length
  let start : Search := ⟨⟨bangs, 0, .none, .none⟩, [], 0⟩
  match search glob path (enough glob.size path.size) start with
  | none => false
  | some found => found != (bangs % 2 == 1)

/-- What is used of a library of path patterns. -/
class Matcher where
  isMatch : (pattern path : String) → Bool

/-- The matcher that runs. -/
instance standard : Matcher := ⟨isMatch⟩

end Glob

end TaskPlan
