import TaskPlan.Context.Hasher
import TaskPlan.Text.Blank
import TaskPlan.Text.Unicode.Classes

/-!
# Image contexts

The context of a docker image is a directory with a Dockerfile. A line `# %ARG NAME`
makes `$NAME` stand for an argument in the lines after it, and a line
`# %include path` adds a file or directory of the source tree. The Dockerfile counts
as it is after that, without the lines of arguments.
-/

namespace TaskPlan

namespace Dockerfile

/-! ### Replacements

The text of an argument is a template: `$$` is a dollar sign, `$` before a name or
before a name in braces is a group of the match, and any other `$` stands for itself. -/

def isGroupChar (c : Char) : Bool := c.isAlphanum || c == '_'

/-- Group 0 is the whole match; there are no others. -/
def isWholeMatch (group : List Char) : Bool :=
  let digits := match group with
    | '+' :: rest => rest
    | _ => group
  !digits.isEmpty && digits.all (· == '0')

/-- The group that a template refers to after a `$`, and how long the reference is. -/
def group? : List Char → Option (List Char × Nat)
  | '\x7b' :: rest =>
    let group := rest.takeWhile (· != '\x7d')
    if group.length < rest.length then some (group, group.length + 2) else none
  | rest =>
    let group := rest.takeWhile isGroupChar
    if group.isEmpty then none else some (group, group.length)

/-- A template with the groups of a match filled in; `skip` characters of the last
reference are still to be passed over. -/
def fill (whole : List Char) : (skip : Nat) → List Char → List Char
  | _, [] => []
  | skip + 1, _ :: rest => fill whole skip rest
  | 0, c :: rest =>
    if c != '$' then c :: fill whole 0 rest
    else if rest.head? == some '$' then '$' :: fill whole 1 rest
    else
      match group? rest with
      | none => '$' :: fill whole 0 rest
      | some (group, length) => (if isWholeMatch group then whole else []) ++ fill whole length rest

def isWordBoundary (before after : Option Char) : Bool :=
  (before.any fun c => Text.isWord c.toNat) != (after.any fun c => Text.isWord c.toNat)

/-- Whether a text starts with `reference` and a boundary of words comes after it. -/
def startsReference (reference s : List Char) : Bool :=
  match Text.dropHead? reference s with
  | some rest => isWordBoundary reference.getLast? rest.head?
  | none => false

/-- A text with a template filled in for each place of a reference, found from the left. -/
def substitute (reference template : List Char) : (skip : Nat) → List Char → List Char
  | _, [] => []
  | skip + 1, _ :: rest => substitute reference template skip rest
  | 0, c :: rest =>
    if startsReference reference (c :: rest) then
      fill reference 0 template ++ substitute reference template (reference.length - 1) rest
    else c :: substitute reference template 0 rest

abbrev Replacements := List (List Char × List Char)

def expand (replacements : Replacements) (line : List Char) : List Char :=
  replacements.foldl (fun line entry => substitute entry.1 entry.2 0 line) line

/-! ### Lines -/

def argumentMark : String := "# %ARG "

def includeMark : String := "# %include "

/-- The content that counts of a Dockerfile, and what it includes. -/
structure Expansion where
  content : List Char
  includes : List String

/-- The expansion of the lines after some declarations. An argument that is not given
ends it, but what comes before still counts. -/
def expandLines (arguments : KeyMap String) (replacements : Replacements) :
    List (List Char) → Expansion × Option ConfigFault
  | [] => (⟨[], []⟩, none)
  | line :: rest =>
    match Text.dropHead? argumentMark.toList line with
    | some name =>
      let name := Text.trimChars name
      match arguments.get? (String.ofList name) with
      | some value =>
        expandLines arguments (replacements ++ [('$' :: name, value.toList)]) rest
      | none => (⟨[], []⟩, some (.missingArgument (String.ofList name)))
    | none =>
      let line := expand replacements line
      let (expansion, fault) := expandLines arguments replacements rest
      let includes := match Text.dropHead? includeMark.toList line with
        | some path => String.ofList (Text.trimChars path) :: expansion.includes
        | none => expansion.includes
      (⟨line ++ expansion.content, includes⟩, fault)

def addInclude (tree : FileTree) (directory : String) (hasher : ContextHasher) (path : String) :
    Result ContextHasher :=
  if Path.isAbsolute path then .error (.config (.absoluteInclude path))
  else if Path.leadsUp path then .error (.config (.outsideInclude path))
  else
    let target := ContextHasher.archivePath directory ("topsrcdir" :: Path.names path)
    match tree.locate path with
    | .error _ => .error (.config (.missingInclude path))
    | .ok (_, .directory) => hasher.addDirectory tree path target
    | .ok (_, .file content) => .ok (hasher.add target content)

end Dockerfile

def contextHash (tree : FileTree) (source directory : String) (arguments : KeyMap String) :
    Result String := do
  let hasher ← ContextHasher.empty.addDirectory tree source directory
  let dockerfile ← tree.readText (Path.join source "Dockerfile")
  let (expansion, fault) := Dockerfile.expandLines arguments [] (Text.lines dockerfile.toList)
  let hasher ← expansion.includes.foldlM (Dockerfile.addInclude tree directory) hasher
  match fault with
  | some fault => .error (.config fault)
  | none =>
    let path := ContextHasher.archivePath directory ["Dockerfile"]
    return (hasher.add path (Bytes.ofText (String.ofList expansion.content))).digest

end TaskPlan
