import TaskPlan.Yaml.Scalar

/-!
# YAML tokens

`Token.scan` cuts a document into tokens. Collections in block style have no marks of
their own: they start where a line is indented further than the lines before it and
end where one is indented less. What may be a key is known as one only by the colon
after it, on the same line; its token is then put in before it.
-/

namespace TaskPlan

namespace Yaml

inductive Token where
  | version (major minor : Nat)
  | tagHandle (handle beginning : String)
  | documentStart
  | documentEnd
  | blockSequenceStart
  | blockMappingStart
  | blockEnd
  | flowSequenceStart
  | flowSequenceEnd
  | flowMappingStart
  | flowMappingEnd
  | blockEntry
  | flowEntry
  | key
  | value
  | alias (name : String)
  | anchor (name : String)
  /-- an empty handle stands before a tag that is complete -/
  | tag (handle suffix : String)
  | scalar (text : String) (style : ScalarStyle)
deriving DecidableEq, Repr

/-- A place where a key may have started. -/
structure KeyStart where
  index : Nat
  line : Nat
  column : Nat
  position : Nat
  /-- whether the block mapping cannot go on without this key -/
  required : Bool
deriving Repr

structure Scanner where
  cursor : Cursor
  /-- the columns of the open block collections, the innermost first -/
  indents : List Nat
  /-- where a key may have started, for each open flow collection and for the block
  around them, the innermost first -/
  keys : List (Option KeyStart)
  keyAllowed : Bool
  tokens : List Token

namespace Scanner

def start (text : List Char) : Scanner := ⟨.start text, [], [none], true, []⟩

def inFlow (s : Scanner) : Bool := s.keys.length > 1

def push (s : Scanner) (token : Token) : Scanner := { s with tokens := token :: s.tokens }

def insertAt (s : Scanner) (position : Nat) (token : Token) : Scanner :=
  let later := s.tokens.length - position
  { s with tokens := s.tokens.take later ++ token :: s.tokens.drop later }

def skip (s : Scanner) (n : Nat) : Scanner := { s with cursor := s.cursor.skip n }

/-! ### Indentation -/

def isDeeper (s : Scanner) (column : Nat) : Bool := s.indents.head?.all fun indent => indent < column

def roll (s : Scanner) (column position : Nat) (token : Token) : Scanner :=
  if !s.inFlow && s.isDeeper column then
    { s.insertAt position token with indents := column :: s.indents }
  else s

def unroll (s : Scanner) (column : Option Nat) : Scanner :=
  if s.inFlow then s
  else
    let ended := s.indents.takeWhile fun indent => column.all fun column => column < indent
    { s with
      indents := s.indents.drop ended.length
      tokens := List.replicate ended.length .blockEnd ++ s.tokens }

/-! ### Keys -/

/-- Gives up the innermost place of a key; it must not be a required one. -/
def dropKey (s : Scanner) : Option Scanner :=
  match s.keys with
  | some key :: rest => if key.required then none else some { s with keys := none :: rest }
  | _ => some s

def saveKey (s : Scanner) : Option Scanner :=
  if s.keyAllowed then do
    let c := s.cursor
    let required := !s.inFlow && s.indents.head? == some c.column
    let s ← s.dropKey
    return { s with
      keys := some ⟨c.index, c.line, c.column, s.tokens.length, required⟩ :: s.keys.drop 1 }
  else some s

def keyReach : Nat := 1024

def isStale (c : Cursor) (key : KeyStart) : Bool :=
  key.line < c.line || key.index + keyReach < c.index

/-- Gives up the places of keys that are on an earlier line or too far away. -/
def dropStale (s : Scanner) : Option Scanner :=
  if s.keys.any fun key => key.any fun key => isStale s.cursor key && key.required then none
  else some { s with keys := s.keys.map fun key => key.filter fun key => !isStale s.cursor key }

/-! ### Between tokens -/

/-- Goes over blanks, comments and line breaks. Outside of flow collections tabs may
not stand where a key may, and a key may start on every new line. -/
def skipBetween : (fuel : Nat) → Scanner → Scanner
  | 0, s => s
  | fuel + 1, s =>
    let c := s.cursor
    let c := if c.column == 0 && c.peek == some '\uFEFF' then c.skip 1 else c
    let tabs := s.inFlow || !s.keyAllowed
    let c := c.skipRun fun x => x == ' ' || (tabs && x == '\t')
    let c := if c.peek == some '#' then c.skipRun (!isBreak ·) else c
    if c.isAt isBreak then
      skipBetween fuel { s with cursor := c.skipBreak, keyAllowed := s.keyAllowed || !s.inFlow }
    else { s with cursor := c }

/-! ### Names and tags -/

def readName (c : Cursor) : Option (String × Cursor) :=
  let name := c.run isNameChar
  let after := c.skip name.length
  if name.isEmpty then none
  else if after.isGapAt 0 || after.isAt "?:,]\x7d%@\x60".toList.contains then
    some (String.ofList name, after)
  else none

def isTagChar (verbatim : Bool) (c : Char) : Bool :=
  isNameChar c || ";/?:@&=+$.%!~*'()".toList.contains c || (verbatim && ",[]".toList.contains c)

/-- The characters of a tag with those written by their bytes. -/
def decodeTag : (fuel : Nat) → List Char → List UInt8 → Option (List UInt8)
  | 0, _, _ => none
  | _ + 1, [], done => some done.reverse
  | fuel + 1, '%' :: high :: low :: rest, done => do
    let high ← Text.hexValue? high
    let low ← Text.hexValue? low
    decodeTag fuel rest (UInt8.ofNat (16 * high + low) :: done)
  | fuel + 1, c :: rest, done =>
    if c == '%' then none
    else decodeTag fuel rest ((String.singleton c).toUTF8.toList.reverse ++ done)

def readTagPart (verbatim : Bool) (c : Cursor) : Option (String × Cursor) := do
  let part := c.run (isTagChar verbatim)
  let bytes ← decodeTag (part.length + 1) part []
  let text ← String.fromUTF8? ⟨bytes.toArray⟩
  return (text, c.skip part.length)

/-- A handle: `!`, a name and perhaps another `!`. -/
def readHandle (c : Cursor) : Option (String × Cursor) :=
  if c.peek == some '!' then
    let name := (c.skip 1).run isNameChar
    let after := c.skip (1 + name.length)
    if after.peek == some '!' then some (String.ofList ('!' :: name ++ ['!']), after.skip 1)
    else some (String.ofList ('!' :: name), after)
  else none

def isClosed (handle : String) : Bool := handle.length > 1 && handle.toList.getLast? == some '!'

def readVerbatim (c : Cursor) : Option (String × String × Cursor) := do
  let (suffix, c) ← readTagPart true (c.skip 2)
  guard (!suffix.isEmpty && c.peek == some '>')
  return ("", suffix, c.skip 1)

/-- A tag as handle and suffix. Without a closed handle all after the first mark is
suffix; a mark alone is a complete tag. -/
def readShorthand (c : Cursor) : Option (String × String × Cursor) := do
  let (handle, c) ← readHandle c
  let (suffix, c) ← readTagPart false c
  if isClosed handle then
    guard !suffix.isEmpty
    return (handle, suffix, c)
  else
    let suffix := String.ofList (handle.toList.drop 1) ++ suffix
    return if suffix.isEmpty then ("", "!", c) else ("!", suffix, c)

/-- A tag ends where a word does, in flow collections also at a comma. -/
def readTag (flow : Bool) (c : Cursor) : Option (Token × Cursor) := do
  let (handle, suffix, c) ← if c.peekAt 1 == some '<' then readVerbatim c else readShorthand c
  guard (c.isGapAt 0 || (flow && c.peek == some ','))
  return (.tag handle suffix, c)

/-! ### Directives -/

def readVersion (c : Cursor) : Option (Token × Cursor) := do
  let c := c.skipRun isSpace
  let major := c.run Char.isDigit
  let c := c.skip major.length
  guard (c.peek == some '.')
  let minor := (c.skip 1).run Char.isDigit
  guard (!major.isEmpty && !minor.isEmpty && major.length < 10 && minor.length < 10)
  return (.version (Text.decimalValue major) (Text.decimalValue minor),
    c.skip (1 + minor.length))

def readTagHandle (c : Cursor) : Option (Token × Cursor) := do
  let (handle, c) ← readHandle (c.skipRun isSpace)
  guard ((handle == "!" || isClosed handle) && c.isAt isSpace)
  let (beginning, c) ← readTagPart true (c.skipRun isSpace)
  guard (!beginning.isEmpty && c.isGapAt 0)
  return (.tagHandle handle beginning, c)

def readDirective (c : Cursor) : Option (Token × Cursor) := do
  let c := c.skip 1
  let name := c.run isNameChar
  let c := c.skip name.length
  let (token, c) ←
    if name == "YAML".toList && c.isGapAt 0 then readVersion c
    else if name == "TAG".toList && c.isGapAt 0 then readTagHandle c
    else none
  let c ← c.finishLine?
  return (token, c)

/-! ### One token -/

def pushMark (s : Scanner) (token : Token) (length : Nat) : Scanner := (s.push token).skip length

/-- A mark between documents, at which all block collections end. -/
def marker (s : Scanner) (token : Token) : Option Scanner := do
  let s ← (s.unroll none).dropKey
  return { s with keyAllowed := false }.pushMark token 3

def openFlow (s : Scanner) (token : Token) : Option Scanner := do
  let s ← s.saveKey
  return { s with keys := none :: s.keys, keyAllowed := true }.pushMark token 1

def closeFlow (s : Scanner) (token : Token) : Option Scanner := do
  let s ← s.dropKey
  let keys := if s.inFlow then s.keys.drop 1 else s.keys
  return { s with keys := keys, keyAllowed := false }.pushMark token 1

def flowEntry (s : Scanner) : Option Scanner := do
  let s ← s.dropKey
  return { s with keyAllowed := true }.pushMark .flowEntry 1

/-- A mark of a block collection, which is only allowed where a key is. -/
def blockMark (s : Scanner) (collection : Token) : Option Scanner :=
  if s.inFlow then some s
  else if s.keyAllowed then some (s.roll s.cursor.column s.tokens.length collection)
  else none

def blockEntry (s : Scanner) : Option Scanner := do
  let s ← s.blockMark .blockSequenceStart
  let s ← s.dropKey
  return { s with keyAllowed := true }.pushMark .blockEntry 1

def explicitKey (s : Scanner) : Option Scanner := do
  let s ← s.blockMark .blockMappingStart
  let s ← s.dropKey
  return { s with keyAllowed := !s.inFlow }.pushMark .key 1

/-- The colon before a value. If a key may have started before it, its tokens are put
in there. -/
def valueMark (s : Scanner) : Option Scanner :=
  match s.keys with
  | some key :: rest =>
    let s := s.insertAt key.position .key
    let s := s.roll key.column key.position .blockMappingStart
    some ({ s with keys := none :: rest, keyAllowed := false }.pushMark .value 1)
  | _ => do
    let s ← s.blockMark .blockMappingStart
    return { s with keyAllowed := !s.inFlow }.pushMark .value 1

def keyToken (s : Scanner) (read : Cursor → Option (Token × Cursor)) : Option Scanner := do
  let s ← s.saveKey
  let (token, c) ← read s.cursor
  return { s with keyAllowed := false, cursor := c }.push token

def plain (s : Scanner) : Option Scanner := do
  let s ← s.saveKey
  let margin := match s.indents.head? with
    | some indent => indent + 1
    | none => 0
  let found ← readPlain s.inFlow margin (s.cursor.rest.length + 1) s.cursor [] Gap.none
  return { s with keyAllowed := found.broken, cursor := found.cursor }.push
    (.scalar (String.ofList found.text) .plain)

def quoted (quote : Char) (c : Cursor) : Option (Token × Cursor) := do
  let (text, c) ← readQuoted quote (c.rest.length + 1) (c.skip 1) []
  return (.scalar (String.ofList text) .quoted, c)

def block (s : Scanner) (style : ScalarStyle) : Option Scanner := do
  let s ← s.dropKey
  let (text, c) ← readBlock (style == .folded) s.indents.head? (s.cursor.skip 1)
  return { s with keyAllowed := true, cursor := c }.push (.scalar (String.ofList text) style)

def named (token : String → Token) (c : Cursor) : Option (Token × Cursor) := do
  let (name, c) ← readName (c.skip 1)
  return (token name, c)

def indicators : List Char := "-?:,[]\x7b\x7d#&*!|>'\"%@\x60".toList

/-- Whether a plain scalar may start here. A tab is here where tabs are not passed over. -/
def startsPlain (s : Scanner) (c : Char) : Bool :=
  !(isGap c || indicators.contains c) ||
    (c == '-' && !(s.cursor.peekAt 1).any isSpace) ||
    (!s.inFlow && (c == '?' || c == ':') && !s.cursor.isGapAt 1)

def fetch (s : Scanner) (c : Char) : Option Scanner :=
  let cursor := s.cursor
  let spaced := cursor.isGapAt 1
  if cursor.column == 0 && c == '%' then do
    let s ← (s.unroll none).dropKey
    let (token, cursor) ← readDirective cursor
    return { s with keyAllowed := false, cursor := cursor }.push token
  else if cursor.isMarker '-' then s.marker .documentStart
  else if cursor.isMarker '.' then s.marker .documentEnd
  else if c == '[' then s.openFlow .flowSequenceStart
  else if c == '\x7b' then s.openFlow .flowMappingStart
  else if c == ']' then s.closeFlow .flowSequenceEnd
  else if c == '\x7d' then s.closeFlow .flowMappingEnd
  else if c == ',' then s.flowEntry
  else if c == '-' && spaced then s.blockEntry
  else if c == '?' && (s.inFlow || spaced) then s.explicitKey
  else if c == ':' && (s.inFlow || spaced) then s.valueMark
  else if c == '*' then s.keyToken (named .alias)
  else if c == '&' then s.keyToken (named .anchor)
  else if c == '!' then s.keyToken (readTag s.inFlow)
  else if c == '|' && !s.inFlow then s.block .literal
  else if c == '>' && !s.inFlow then s.block .folded
  else if c == '\'' then s.keyToken (quoted '\'')
  else if c == '"' then s.keyToken (quoted '"')
  else if s.startsPlain c then s.plain
  else none

def scanAll : (fuel : Nat) → Scanner → Option (List Token)
  | 0, _ => none
  | fuel + 1, s => do
    let s := skipBetween (s.cursor.rest.length + 1) s
    let s ← s.dropStale
    let s := s.unroll (some s.cursor.column)
    match s.cursor.peek with
    | some c =>
      let s ← s.fetch c
      scanAll fuel s
    | none =>
      let s ← (s.unroll none).dropKey
      return s.tokens.reverse

end Scanner

def Token.scan (text : String) : Option (List Token) :=
  let text := text.toList
  if text.all isAllowed then Scanner.scanAll (text.length + 1) (.start text) else none

end Yaml

end TaskPlan
