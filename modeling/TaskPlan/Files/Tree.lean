import TaskPlan.Error
import TaskPlan.Text.Split

/-!
# File trees

The files below a directory, with their contents. Paths are read from that directory
on, as far as they stay in it.
-/

namespace TaskPlan

abbrev Bytes := List UInt8

namespace Bytes

def ofText (s : String) : Bytes := s.toUTF8.toList

def text? (bytes : Bytes) : Option String := String.fromUTF8? ⟨bytes.toArray⟩

end Bytes

/-! ### Paths -/

namespace Path

def segments (path : String) : List String := Text.splitOn '/' path

def isAbsolute (path : String) : Bool := Text.startsWith path "/"

def join (directory path : String) : String :=
  if directory.isEmpty then path else directory ++ "/" ++ path

def leadsUp (path : String) : Bool := (segments path).contains ".."

def names (path : String) : List String :=
  (segments path).filter fun segment => segment != "" && segment != "." && segment != ".."

/-- The name that a path ends with, unless it ends by leading up. -/
def fileName? (path : String) : Option String :=
  match ((segments path).filter fun segment => segment != "" && segment != ".").getLast? with
  | some ".." => none
  | last => last

/-- What follows the last point of the name of a file, which must not start with it. -/
def extension? (path : String) : Option String :=
  match (fileName? path).map fun name => (Text.splitOn '.' name).reverse with
  | some (last :: before :: more) =>
    if before.isEmpty && more.isEmpty then none else some last
  | _ => none

end Path

/-! ### Trees -/

inductive FileEntry where
  | file (content : Bytes)
  | directory

structure FileTree where
  /-- what the directory is called in messages -/
  name : String
  /-- contents by the names on the way to them; none for a directory -/
  entries : List (List String × Option Bytes)

namespace FileTree

def ofList (name : String) (files : List (String × Option Bytes)) : FileTree :=
  ⟨name, files.map fun entry => (Path.names entry.1, entry.2)⟩

/-- What is at a place. The way to an entry is made of directories. -/
def entry? (tree : FileTree) (place : List String) : Option FileEntry :=
  match tree.entries.lookup place with
  | some (some content) => some (.file content)
  | some none => some .directory
  | none =>
    if place.isEmpty || tree.entries.any fun entry => place.isPrefixOf entry.1 then some .directory
    else none

def walk (tree : FileTree) : (place : List String) → List String → Except FileFault (List String)
  | place, [] => .ok place
  | place, segment :: rest =>
    match tree.entry? place with
    | none => .error .notFound
    | some (.file _) => .error .notDirectory
    | some .directory =>
      if segment = "" ∨ segment = "." then tree.walk place rest
      else if segment = ".." then tree.walk place.dropLast rest
      else tree.walk (place ++ [segment]) rest

def locate (tree : FileTree) (path : String) : Except FileFault (List String × FileEntry) :=
  if Path.isAbsolute path then .error .notFound
  else do
    let place ← tree.walk [] (Path.segments path)
    match tree.entry? place with
    | some entry => return (place, entry)
    | none => .error .notFound

def contains (tree : FileTree) (path : String) : Bool := (tree.locate path).isOk

def read (tree : FileTree) (path : String) : Result Bytes :=
  match tree.locate path with
  | .error fault => .error (.file fault)
  | .ok (_, .directory) => .error (.file .isDirectory)
  | .ok (_, .file content) => .ok content

def readText (tree : FileTree) (path : String) : Result String := do
  match Bytes.text? (← tree.read path) with
  | some text => return text
  | none => .error (.file .notText)

def files (tree : FileTree) (path : String) : Except FileFault (List (List String × Bytes)) := do
  let (place, entry) ← tree.locate path
  match entry with
  | .file content => return [([], content)]
  | .directory =>
    return tree.entries.filterMap fun entry =>
      match entry.2 with
      | some content =>
        if place.isPrefixOf entry.1 then some (entry.1.drop place.length, content) else none
      | none => none

end FileTree

end TaskPlan
