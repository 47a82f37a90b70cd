import TaskPlan.Json.Token

/-!
# Reading JSON text

`Json.ofTokens?` reads the tokens of one value with a stack of the containers
that are still open, one token at a time. `Json.parse?` reads a text. A key that
repeats in a mapping keeps its first place and takes its last value, and no more
than `maxDepth` containers may be open at once.
-/

namespace TaskPlan

namespace Json

/-- A container that is still open. Its items and entries are kept last first. -/
inductive Frame where
  | items (done : List Json)
  | entries (done : List (String × Json)) (key : String)

inductive Expect where
  /-- a value, and also the end of the list that has just been opened -/
  | valueOrEnd
  | value
  /-- a key, and also the end of the mapping that has just been opened -/
  | keyOrEnd (done : List (String × Json))
  | key (done : List (String × Json))
  | colon (done : List (String × Json)) (key : String)
  /-- a comma or the end of the innermost container, after one of its values -/
  | more (last : Json)

structure Reader where
  frames : List Frame
  expect : Expect

/-- The number of containers that may be open at once. -/
def maxDepth : Nat := 127

namespace Reader

def start : Reader := ⟨[], .value⟩

/-- The depth counts a container whose key is being read as open. -/
def canOpen (r : Reader) : Bool := decide (r.frames.length < maxDepth)

def openValue (r : Reader) : Token → Option Reader
  | .null => some ⟨r.frames, .more .null⟩
  | .bool b => some ⟨r.frames, .more (.bool b)⟩
  | .num n => some ⟨r.frames, .more (.num n)⟩
  | .str s => some ⟨r.frames, .more (.str s)⟩
  | .openBracket => if r.canOpen then some ⟨.items [] :: r.frames, .valueOrEnd⟩ else none
  | .openBrace => if r.canOpen then some ⟨r.frames, .keyOrEnd []⟩ else none
  | _ => none

def step (r : Reader) (token : Token) : Option Reader :=
  match r.expect, r.frames, token with
  | .valueOrEnd, .items done :: frames, .closeBracket => some ⟨frames, .more (.arr done.reverse)⟩
  | .valueOrEnd, _, token => r.openValue token
  | .value, _, token => r.openValue token
  | .keyOrEnd _, frames, .closeBrace => some ⟨frames, .more (.obj [])⟩
  | .keyOrEnd done, frames, .str key => some ⟨frames, .colon done key⟩
  | .key done, frames, .str key => some ⟨frames, .colon done key⟩
  | .colon done key, frames, .colon => some ⟨.entries done key :: frames, .value⟩
  | .more last, .items done :: frames, .comma => some ⟨.items (last :: done) :: frames, .value⟩
  | .more last, .items done :: frames, .closeBracket =>
    some ⟨frames, .more (.arr (last :: done).reverse)⟩
  | .more last, .entries done key :: frames, .comma => some ⟨frames, .key ((key, last) :: done)⟩
  | .more last, .entries done key :: frames, .closeBrace =>
    some ⟨frames, .more (.obj (Fields.ofList ((key, last) :: done).reverse))⟩
  | _, _, _ => none

def result? (r : Reader) : Option Json :=
  match r.frames, r.expect with
  | [], .more value => some value
  | _, _ => none

end Reader

def ofTokens? (tokens : List Token) : Option Json := do
  let reader ← tokens.foldlM Reader.step Reader.start
  reader.result?

def parse? (s : String) : Option Json := (Token.scan s).bind ofTokens?

end Json

end TaskPlan
