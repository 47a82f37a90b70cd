import TaskPlan.Digest.Sha256
import TaskPlan.Files.Tree
import TaskPlan.Order.KeyMap

/-!
# Hashing contexts

A context is a set of files under paths of an archive. Its digest depends on the
paths and contents alone: entries are taken in the order of their paths, each as its
path, a zero, the length of its content and the content.
-/

namespace TaskPlan

structure ContextHasher where
  entries : KeyMap Bytes
deriving Inhabited

namespace ContextHasher

def empty : ContextHasher := ⟨.empty⟩

def size (hasher : ContextHasher) : Nat := hasher.entries.size

def paths (hasher : ContextHasher) : List String := hasher.entries.keys

/-- Adds an entry, in the place of one with the same path. -/
def add (hasher : ContextHasher) (path : String) (content : Bytes) : ContextHasher :=
  ⟨hasher.entries.insert path content⟩

def archivePath (directory : String) (names : List String) : String :=
  let start := if directory.isEmpty then [] else [Text.trimEnd '/' directory]
  String.intercalate "/" (start ++ names)

def addFile (hasher : ContextHasher) (tree : FileTree) (path source : String) :
    Result ContextHasher := do
  let content ← tree.read source
  return hasher.add path content

def addDirectory (hasher : ContextHasher) (tree : FileTree) (source directory : String) :
    Result ContextHasher :=
  match tree.files source with
  | .error _ => .error (.config .unwalkable)
  | .ok files =>
    .ok (files.foldl (fun hasher file => hasher.add (archivePath directory file.1) file.2) hasher)

/-! ### Digests -/

/-- A number of 64 bits as bytes, the least significant one first. -/
def littleEndian : (count : Nat) → Nat → Bytes
  | 0, _ => []
  | count + 1, n => UInt8.ofNat n :: littleEndian count (n / 256)

def frame (path : String) (content : Bytes) : Bytes :=
  Bytes.ofText path ++ 0 :: littleEndian 8 content.length ++ content

def stream (hasher : ContextHasher) : Bytes :=
  hasher.entries.toList.flatMap fun entry => frame entry.1 entry.2

def digest (hasher : ContextHasher) : String := Sha256.hexDigest hasher.stream

end ContextHasher

end TaskPlan
