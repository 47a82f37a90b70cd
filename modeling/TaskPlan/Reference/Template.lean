/-!
# Reference templates

A text in which names between angle brackets stand for ids. A bracket group is a
`<`, one or more characters other than `>`, and a `>`; groups are found from the
left, and all else stands for itself. The group `<<>` stands for a single `<`.
-/

namespace TaskPlan

namespace Template

inductive Piece where
  | char (c : Char)
  | group (content : List Char)
deriving DecidableEq, Repr

def group? : List Char → Option (List Char)
  | '<' :: rest =>
    match rest.span (· != '>') with
    | ([], _) => none
    | (_, []) => none
    | (content, _ :: _) => some content
  | _ => none

/-- The pieces of a text, with `skip` characters of the last group still to drop. -/
def piecesFrom : (skip : Nat) → List Char → List Piece
  | _, [] => []
  | skip + 1, _ :: rest => piecesFrom skip rest
  | 0, c :: rest =>
    match group? (c :: rest) with
    | some content => .group content :: piecesFrom (content.length + 1) rest
    | none => .char c :: piecesFrom 0 rest

def pieces (template : List Char) : List Piece := piecesFrom 0 template

/-- The text that a piece stands for: `lookup` gives the ids of names. The name `<`
that has no id stands for itself; of another one the failure tells the name. -/
def Piece.render (lookup : String → Option String) : Piece → Except String (List Char)
  | .char c => .ok [c]
  | .group content =>
    let name := String.ofList content
    match lookup name with
    | some id => .ok id.toList
    | none => if name = "<" then .ok ['<'] else .error name

def render (lookup : String → Option String) (template : String) : Except String String :=
  ((pieces template.toList).mapM (Piece.render lookup)).map fun parts => String.ofList parts.flatten

/-! ### Artifact references

Here a group holds a name, a slash and a path. Other groups are no references and
stand for themselves. -/

inductive ArtifactPiece where
  | char (c : Char)
  | artifact (dependency path : List Char)
deriving DecidableEq, Repr

def artifact? : List Char → Option (List Char × List Char)
  | '<' :: rest =>
    match rest.span (fun c => c != '/' && c != '>') with
    | ([], _) => none
    | (dependency, '/' :: rest) =>
      match rest.span (· != '>') with
      | ([], _) => none
      | (_, []) => none
      | (path, _ :: _) => some (dependency, path)
    | _ => none
  | _ => none

def artifactPiecesFrom : (skip : Nat) → List Char → List ArtifactPiece
  | _, [] => []
  | skip + 1, _ :: rest => artifactPiecesFrom skip rest
  | 0, c :: rest =>
    match artifact? (c :: rest) with
    | some (dependency, path) =>
      .artifact dependency path :: artifactPiecesFrom (dependency.length + path.length + 2) rest
    | none => .char c :: artifactPiecesFrom 0 rest

def ArtifactPiece.render (lookup : String → Option String) (locate : (taskId path : String) → String) :
    ArtifactPiece → Except String (List Char)
  | .char c => .ok [c]
  | .artifact dependency path =>
    let name := String.ofList dependency
    match lookup name with
    | some id => .ok (locate id (String.ofList path)).toList
    | none => .error name

def renderArtifacts (lookup : String → Option String) (locate : (taskId path : String) → String)
    (template : String) : Except String String :=
  ((artifactPiecesFrom 0 template.toList).mapM (ArtifactPiece.render lookup locate)).map
    fun parts => String.ofList parts.flatten

end Template

end TaskPlan
