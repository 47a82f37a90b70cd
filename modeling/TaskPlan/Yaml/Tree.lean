import TaskPlan.Yaml.Token

/-!
# The collections of a document

`Tree.read` puts the tokens of a document together to scalars, sequences and
mappings. A stream holds one document at most.
-/

namespace TaskPlan

namespace Yaml

/-- A part of a document. `ρ` is what anchors and the aliases of them are known by. -/
inductive Tree (ρ : Type) where
  | alias (anchor : ρ)
  | scalar (anchor : Option ρ) (tag : Option String) (text : String) (style : ScalarStyle)
  | sequence (anchor : Option ρ) (tag : Option String) (items : List (Tree ρ))
  | mapping (anchor : Option ρ) (tag : Option String) (entries : List (Tree ρ × Tree ρ))

namespace Tree

/-- What stands for a value that is left out. -/
def nothing : Tree String := .scalar none none "" .plain

/-! ### Anchors and tags -/

abbrev Handles := List (String × String)

def standardHandles : Handles := [("!", "!"), ("!!", "tag:yaml.org,2002:")]

def resolveTag (handles : Handles) (handle suffix : String) : Option String :=
  if handle.isEmpty then some suffix else (handles.lookup handle).map (· ++ suffix)

/-- The anchor and the tag before a node, in either order. -/
def readProperties (handles : Handles) :
    List Token → Option (Option String × Option String × List Token)
  | .anchor name :: .tag handle suffix :: rest => do
    let tag ← resolveTag handles handle suffix
    return (some name, some tag, rest)
  | .tag handle suffix :: .anchor name :: rest => do
    let tag ← resolveTag handles handle suffix
    return (some name, some tag, rest)
  | .anchor name :: rest => some (some name, none, rest)
  | .tag handle suffix :: rest => do
    let tag ← resolveTag handles handle suffix
    return (none, some tag, rest)
  | tokens => some (none, none, tokens)

/-! ### Nodes -/

inductive Place where
  /-- an item of a block sequence, or the document itself -/
  | item
  /-- a key or value of a block mapping, where the marks of a sequence need no indentation -/
  | field
  | flow
deriving DecidableEq

/-- Whether a key or value of a block mapping is left out before this token. -/
def endsField : List Token → Bool
  | .key :: _ => true
  | .value :: _ => true
  | .blockEnd :: _ => true
  | _ => false

def endsItem : List Token → Bool
  | .blockEntry :: _ => true
  | .blockEnd :: _ => true
  | _ => false

def endsFlowValue (close : Token) : List Token → Bool
  | token :: _ => token == .flowEntry || token == close
  | [] => false

def endsFlowKey (close : Token) (tokens : List Token) : Bool :=
  tokens.head? == some .value || endsFlowValue close tokens

mutual

def readNode (handles : Handles) : (fuel : Nat) → Place → List Token → Option (Tree String × List Token)
  | 0, _, _ => none
  | _ + 1, _, .alias name :: rest => some (.alias name, rest)
  | fuel + 1, place, tokens => do
    let (anchor, tag, tokens) ← readProperties handles tokens
    match tokens, place with
    | .scalar text style :: rest, _ =>
      return (.scalar anchor (tag.filter (· != "!")) text style, rest)
    | .flowSequenceStart :: rest, _ =>
      let (items, rest) ← readFlowItems handles fuel true rest
      return (.sequence anchor tag items, rest)
    | .flowMappingStart :: rest, _ =>
      let (entries, rest) ← readFlowEntries handles fuel true rest
      return (.mapping anchor tag entries, rest)
    | .blockSequenceStart :: rest, _ =>
      let (items, rest) ← readItems handles fuel rest
      return (.sequence anchor tag items, rest)
    | .blockMappingStart :: rest, _ =>
      let (entries, rest) ← readEntries handles fuel rest
      return (.mapping anchor tag entries, rest)
    | .blockEntry :: rest, .field =>
      let (items, rest) ← readBareItems handles fuel (.blockEntry :: rest)
      return (.sequence anchor tag items, rest)
    | rest, _ =>
      if anchor.isNone && tag.isNone then none else return (.scalar anchor tag "" .plain, rest)

def readItems (handles : Handles) : (fuel : Nat) → List Token → Option (List (Tree String) × List Token)
  | 0, _ => none
  | _ + 1, .blockEnd :: rest => some ([], rest)
  | fuel + 1, .blockEntry :: rest => do
    let (item, rest) ← if endsItem rest then some (nothing, rest) else readNode handles fuel .item rest
    let (items, rest) ← readItems handles fuel rest
    return (item :: items, rest)
  | _, _ => none

/-- The items of a block sequence that has no indentation of its own. -/
def readBareItems (handles : Handles) :
    (fuel : Nat) → List Token → Option (List (Tree String) × List Token)
  | 0, _ => none
  | fuel + 1, .blockEntry :: rest => do
    let (item, rest) ← if endsItem rest || endsField rest then some (nothing, rest)
      else readNode handles fuel .item rest
    let (items, rest) ← readBareItems handles fuel rest
    return (item :: items, rest)
  | _, rest => some ([], rest)

def readEntries (handles : Handles) :
    (fuel : Nat) → List Token → Option (List (Tree String × Tree String) × List Token)
  | 0, _ => none
  | _ + 1, .blockEnd :: rest => some ([], rest)
  | fuel + 1, .key :: rest => do
    let (key, rest) ← if endsField rest then some (nothing, rest) else readNode handles fuel .field rest
    let (value, rest) ← match rest with
      | .value :: rest =>
        if endsField rest then some (nothing, rest) else readNode handles fuel .field rest
      | rest => some (nothing, rest)
    let (entries, rest) ← readEntries handles fuel rest
    return ((key, value) :: entries, rest)
  | _, _ => none

def readFlowValue (handles : Handles) :
    (fuel : Nat) → (close : Token) → List Token → Option (Tree String × List Token)
  | 0, _, _ => none
  | fuel + 1, close, .value :: rest =>
    if endsFlowValue close rest then some (nothing, rest) else readNode handles fuel .flow rest
  | _, _, rest => some (nothing, rest)

/-- The items of a flow sequence. An item with a key is a mapping of one entry; where
the key itself is left out, the token after it is passed over. -/
def readFlowItems (handles : Handles) :
    (fuel : Nat) → (first : Bool) → List Token → Option (List (Tree String) × List Token)
  | 0, _, _ => none
  | _ + 1, _, .flowSequenceEnd :: rest => some ([], rest)
  | fuel + 1, false, .flowEntry :: rest => readFlowItems handles fuel true rest
  | _, false, _ => none
  | fuel + 1, true, .key :: rest => do
    let (key, rest) ← if endsFlowKey .flowSequenceEnd rest then some (nothing, rest.drop 1)
      else readNode handles fuel .flow rest
    let (value, rest) ← readFlowValue handles fuel .flowSequenceEnd rest
    let (items, rest) ← readFlowItems handles fuel false rest
    return (.mapping none none [(key, value)] :: items, rest)
  | fuel + 1, true, tokens => do
    let (item, rest) ← readNode handles fuel .flow tokens
    let (items, rest) ← readFlowItems handles fuel false rest
    return (item :: items, rest)

/-- The entries of a flow mapping. A value that no key was found for is a key. -/
def readFlowEntries (handles : Handles) :
    (fuel : Nat) → (first : Bool) → List Token → Option (List (Tree String × Tree String) × List Token)
  | 0, _, _ => none
  | _ + 1, _, .flowMappingEnd :: rest => some ([], rest)
  | fuel + 1, false, .flowEntry :: rest => readFlowEntries handles fuel true rest
  | _, false, _ => none
  | fuel + 1, true, .key :: rest => do
    let (key, rest) ← if endsFlowKey .flowMappingEnd rest then some (nothing, rest)
      else readNode handles fuel .flow rest
    let (value, rest) ← readFlowValue handles fuel .flowMappingEnd rest
    let (entries, rest) ← readFlowEntries handles fuel false rest
    return ((key, value) :: entries, rest)
  | fuel + 1, true, tokens => do
    let (key, rest) ← readNode handles fuel .flow tokens
    let (entries, rest) ← readFlowEntries handles fuel false rest
    return ((key, nothing) :: entries, rest)

end

/-! ### Documents -/

/-- The handles of the directives before a document, with the tokens after these.
There is one version at most, and no handle is declared twice. -/
def readDirectives (versioned : Bool) (handles : Handles) : List Token → Option (Handles × List Token)
  | .version major minor :: rest =>
    if versioned || major ≠ 1 || (minor ≠ 1 && minor ≠ 2) then none
    else readDirectives true handles rest
  | .tagHandle handle beginning :: rest =>
    if (handles.lookup handle).isSome then none
    else readDirectives versioned ((handle, beginning) :: handles) rest
  | rest => some (handles, rest)

def isDocumentMark : Token → Bool
  | .version _ _ => true
  | .tagHandle _ _ => true
  | .documentStart => true
  | .documentEnd => true
  | _ => false

/-- The document of a stream; none if the stream is empty. -/
def read (tokens : List Token) : Option (Option (Tree String)) := do
  if tokens.isEmpty then return none
  let fuel := 4 * tokens.length + 4
  let (declared, rest) ← readDirectives false [] tokens
  let handles := declared ++ standardHandles
  let (tree, rest) ← match rest with
    | .documentStart :: rest =>
      if rest.head?.all isDocumentMark then some (nothing, rest) else readNode handles fuel .item rest
    | rest => if rest.length = tokens.length then readNode handles fuel .item rest else none
  if (rest.dropWhile (· == .documentEnd)).isEmpty then return some tree else none

end Tree

end Yaml

end TaskPlan
