import TaskPlan.Proofs.Reference.Escaping

/-!
# References to artifacts

A search from the left finds the references to artifacts in a text: names and paths with a
slash between them in brackets (`Searched`). The texts between them are copied as they are,
and that includes other bracket groups, `<<>` among them. So a placeholder is resolved to its
text with the locators in place of the references, or fails with the first reference to a
dependency that is not declared (`resolveReferences_artifacts`). Where all bracket groups are
references, those that the search finds are all of them.
-/

namespace TaskPlan

namespace Template

variable {c : Char} {s dependency path rest : List Char} {pieces : List ArtifactPiece}

/-- What a reference has in its brackets: a name, and a path after the first slash. -/
structure IsReference (dependency path : List Char) : Prop where
  named : dependency ≠ []
  slashless : '/' ∉ dependency
  unclosed : '>' ∉ dependency
  somewhere : path ≠ []
  pathUnclosed : '>' ∉ path

/-- A reference and the rest of the text. -/
def referenced (dependency path rest : List Char) : List Char :=
  bracketed (dependency ++ '/' :: path) rest

/-- The pieces that a search for references finds in a text, from the left. -/
inductive Searched : (text : List Char) → List ArtifactPiece → Prop where
  | done : Searched [] []
  | reference {dependency path rest : List Char} {pieces : List ArtifactPiece}
      (valid : IsReference dependency path) (later : Searched rest pieces) :
      Searched (referenced dependency path rest) (.artifact dependency path :: pieces)
  | copied {c : Char} {rest : List Char} {pieces : List ArtifactPiece}
      (none : ∀ dependency path after, IsReference dependency path →
        c :: rest ≠ referenced dependency path after)
      (later : Searched rest pieces) : Searched (c :: rest) (.char c :: pieces)

theorem artifact?_eq_some_iff : artifact? s = some (dependency, path) ↔
    IsReference dependency path ∧ ∃ rest, s = referenced dependency path rest := by
  constructor
  · intro found
    unfold artifact? at found
    split at found
    · split at found
      · cases found
      · rename_i name more some spanned
        split at found
        · cases found
        · cases found
        · rename_i place c rest somewhere spannedPath
          cases found
          obtain ⟨rfl, inside, -⟩ := Text.span_eq_iff.mp spanned
          obtain ⟨rfl, pathUnclosed, rfl⟩ := span_closing_iff.mp spannedPath
          refine ⟨⟨fun none => some none, fun again => ?_, fun again => ?_,
            fun none => somewhere none, pathUnclosed⟩, rest, ?_⟩
          · simpa using inside _ again
          · simpa using inside _ again
          · simp [referenced, bracketed]
      · cases found
    · cases found
  · rintro ⟨valid, rest, rfl⟩
    have spanned : (dependency ++ '/' :: (path ++ '>' :: rest)).span (fun c => c != '/' && c != '>') =
        (dependency, '/' :: (path ++ '>' :: rest)) := by
      refine Text.span_eq_iff.mpr ⟨rfl, fun c member => ?_, Text.stops_cons.mpr rfl⟩
      rw [Bool.and_eq_true, bne_iff_ne, bne_iff_ne]
      constructor
      · rintro rfl
        exact valid.slashless member
      · rintro rfl
        exact valid.unclosed member
    have spannedPath : (path ++ '>' :: rest).span (· != '>') = (path, '>' :: rest) :=
      span_closing_iff.mpr ⟨rfl, valid.pathUnclosed, rfl⟩
    obtain ⟨d, name, rfl⟩ := List.exists_cons_of_ne_nil valid.named
    obtain ⟨p, place, rfl⟩ := List.exists_cons_of_ne_nil valid.somewhere
    have shape : referenced (d :: name) (p :: place) rest =
        '<' :: (d :: name ++ '/' :: (p :: place ++ '>' :: rest)) := by
      simp [referenced, bracketed]
    rw [shape, artifact?, spanned]
    simp only [spannedPath]

/-! ### The search -/

theorem artifactPiecesFrom_append (skipped rest : List Char) :
    artifactPiecesFrom skipped.length (skipped ++ rest) = artifactPiecesFrom 0 rest := by
  induction skipped with
  | nil => rfl
  | cons c skipped ih => exact ih

theorem artifactPieces_referenced (valid : IsReference dependency path) :
    artifactPiecesFrom 0 (referenced dependency path rest) =
      .artifact dependency path :: artifactPiecesFrom 0 rest := by
  have found : artifact? (referenced dependency path rest) = some (dependency, path) :=
    artifact?_eq_some_iff.mpr ⟨valid, rest, rfl⟩
  have skipped := artifactPiecesFrom_append (dependency ++ '/' :: (path ++ ['>'])) rest
  have length : (dependency ++ '/' :: (path ++ ['>'])).length = dependency.length + path.length + 2 := by
    simp
    omega
  have shape : referenced dependency path rest = '<' :: (dependency ++ '/' :: (path ++ ['>']) ++ rest) := by
    simp [referenced, bracketed]
  rw [shape] at found ⊢
  rw [length] at skipped
  simp only [artifactPiecesFrom, found, skipped]

theorem artifactPieces_char (none : ∀ dependency path after, IsReference dependency path →
    c :: rest ≠ referenced dependency path after) :
    artifactPiecesFrom 0 (c :: rest) = .char c :: artifactPiecesFrom 0 rest := by
  have nothing : artifact? (c :: rest) = .none := by
    rw [Option.eq_none_iff_forall_ne_some]
    rintro ⟨dependency, path⟩ found
    obtain ⟨valid, after, same⟩ := artifact?_eq_some_iff.mp found
    exact none dependency path after valid same
  rw [artifactPiecesFrom, nothing]

theorem Searched.eq_artifactPieces (searched : Searched s pieces) : pieces = artifactPiecesFrom 0 s := by
  induction searched with
  | done => rfl
  | reference valid _ ih => rw [artifactPieces_referenced valid, ih]
  | copied none _ ih => rw [artifactPieces_char none, ih]

/-- Each text can be searched: what is left after a reference or a character is shorter. -/
theorem searched_artifactPieces (s : List Char) : Searched s (artifactPiecesFrom 0 s) := by
  cases found : artifact? s with
  | some reference =>
    obtain ⟨dependency, path⟩ := reference
    obtain ⟨valid, rest, rfl⟩ := artifact?_eq_some_iff.mp found
    have shorter : rest.length < (referenced dependency path rest).length := by
      simp [referenced, bracketed]
      omega
    rw [artifactPieces_referenced valid]
    exact .reference valid (searched_artifactPieces rest)
  | none =>
    cases s with
    | nil => exact .done
    | cons c rest =>
      have none : ∀ dependency path after, IsReference dependency path →
          c :: rest ≠ referenced dependency path after := by
        intro dependency path after valid same
        have reference := artifact?_eq_some_iff.mpr ⟨valid, after, same⟩
        rw [found] at reference
        cases reference
      rw [artifactPieces_char none]
      exact .copied none (searched_artifactPieces rest)
termination_by s.length

/-- The piece of a template that a piece of a search is: a reference is the group it stands in. -/
def ArtifactPiece.toPiece : ArtifactPiece → Piece
  | .char c => .char c
  | .artifact dependency path => .group (dependency ++ '/' :: path)

/-- Where each bracket group is a reference, the search finds the groups. -/
theorem Searched.pieces_eq (searched : Searched s pieces)
    (each : ∀ content, Piece.group content ∈ Template.pieces s →
      ∃ dependency path, IsReference dependency path ∧ content = dependency ++ '/' :: path) :
    Template.pieces s = pieces.map ArtifactPiece.toPiece := by
  induction searched with
  | done => rfl
  | @reference dependency path rest pieces valid _ ih =>
    have some : dependency ++ '/' :: path ≠ [] := by simp
    have unclosed : '>' ∉ dependency ++ '/' :: path := by simp [valid.unclosed, valid.pathUnclosed]
    have found : Template.pieces (referenced dependency path rest) =
        .group (dependency ++ '/' :: path) :: Template.pieces rest := pieces_bracketed some unclosed
    rw [found] at each ⊢
    rw [List.map_cons, ArtifactPiece.toPiece,
      ih fun content member => each content (List.mem_cons_of_mem _ member)]
  | @copied c rest pieces none _ ih =>
    cases grouped : group? (c :: rest) with
    | some content =>
      -- the group would be a reference, and those are not copied
      exfalso
      obtain ⟨some, unclosed, after, same⟩ := group?_eq_some_iff.mp grouped
      rw [same, pieces_bracketed some unclosed] at each
      obtain ⟨dependency, path, valid, rfl⟩ := each content List.mem_cons_self
      exact none dependency path after valid same
    | none =>
      have found : Template.pieces (c :: rest) = .char c :: Template.pieces rest := by
        rw [Template.pieces, piecesFrom, grouped]
        rfl
      rw [found] at each ⊢
      rw [List.map_cons, ArtifactPiece.toPiece,
        ih fun content member => each content (List.mem_cons_of_mem _ member)]

/-! ### Texts of pieces -/

section Located

variable {lookup : String → Option String} {locate : (taskId path : String) → String}
  {piece : ArtifactPiece}

/-- The text that a piece stands for: a character for itself, a reference for the locator of
the artifact of a dependency that has an id. -/
inductive Located (lookup : String → Option String) (locate : (taskId path : String) → String) :
    ArtifactPiece → List Char → Prop where
  | copied (c : Char) : Located lookup locate (.char c) [c]
  | reference {dependency path : List Char} {taskId : String}
      (declared : lookup (String.ofList dependency) = some taskId) :
      Located lookup locate (.artifact dependency path) (locate taskId (String.ofList path)).toList

theorem ArtifactPiece.render_ok_iff {text : List Char} :
    piece.render lookup locate = .ok text ↔ Located lookup locate piece text := by
  constructor
  · intro rendered
    cases piece with
    | char c =>
      cases rendered
      exact .copied c
    | artifact dependency path =>
      rw [render] at rendered
      split at rendered
      · rename_i taskId declared
        cases rendered
        exact .reference declared
      · cases rendered
  · rintro (c | declared)
    · rfl
    · simp only [render, declared]

theorem ArtifactPiece.render_error_iff {name : String} :
    piece.render lookup locate = .error name ↔ ∃ dependency path,
      piece = .artifact dependency path ∧ lookup name = none ∧ name = String.ofList dependency := by
  constructor
  · intro failed
    cases piece with
    | char c => cases failed
    | artifact dependency path =>
      rw [render] at failed
      split at failed
      · cases failed
      · rename_i unknown
        cases failed
        exact ⟨dependency, path, rfl, unknown, rfl⟩
  · rintro ⟨dependency, path, rfl, unknown, rfl⟩
    simp only [render, unknown]

variable {template : String}

theorem renderArtifacts_ok_iff {text : String} :
    renderArtifacts lookup locate template = .ok text ↔ ∃ texts,
      List.Forall₂ (Located lookup locate) (artifactPiecesFrom 0 template.toList) texts ∧
        String.ofList texts.flatten = text := by
  rw [renderArtifacts, map_ok_iff]
  refine exists_congr fun texts => and_congr_left fun _ => ?_
  rw [mapM_ok_iff]
  simp only [ArtifactPiece.render_ok_iff]

theorem renderArtifacts_error_iff {name : String} :
    renderArtifacts lookup locate template = .error name ↔ ∃ before dependency path after,
      artifactPiecesFrom 0 template.toList = before ++ .artifact dependency path :: after ∧
        (∀ earlier ∈ before, ∃ text, Located lookup locate earlier text) ∧
        lookup name = none ∧ name = String.ofList dependency := by
  have failed : renderArtifacts lookup locate template = .error name ↔
      (artifactPiecesFrom 0 template.toList).mapM (ArtifactPiece.render lookup locate) = .error name := by
    rw [renderArtifacts]
    cases (artifactPiecesFrom 0 template.toList).mapM (ArtifactPiece.render lookup locate) <;>
      simp [Except.map]
  rw [failed, mapM_error_iff]
  simp only [ArtifactPiece.render_ok_iff, ArtifactPiece.render_error_iff]
  constructor
  · rintro ⟨before, _, after, split, earlier, dependency, path, rfl, unknown, same⟩
    exact ⟨before, dependency, path, after, split, earlier, unknown, same⟩
  · rintro ⟨before, dependency, path, after, split, earlier, unknown, same⟩
    exact ⟨before, _, after, split, earlier, dependency, path, rfl, unknown, same⟩

end Located

end Template

/-- A reference to artifacts is resolved to its text with the locators of declared dependencies
in the place of the references that a search from the left finds, or fails with the first of
them whose dependency is not declared. All else is copied, so that these are all bracket groups
of the text only where none of its groups is of another form. -/
theorem resolveReferences_artifacts (context : ReferenceContext) (rootUrl template : String) :
    ∃ pieces, Template.Searched template.toList pieces ∧
      (∀ others, Template.Searched template.toList others → others = pieces) ∧
      (∀ result,
        resolveReferences context rootUrl (.obj [("artifact-reference", .str template)]) = .ok result ↔
          ∃ texts, List.Forall₂ (Template.Located context.dependencies.get? (artifactUrl rootUrl))
            pieces texts ∧ result = .str (String.ofList texts.flatten)) ∧
      (∀ fault,
        resolveReferences context rootUrl (.obj [("artifact-reference", .str template)]) = .error fault ↔
          ∃ before dependency path after, pieces = before ++ .artifact dependency path :: after ∧
            (∀ earlier ∈ before, ∃ text,
              Template.Located context.dependencies.get? (artifactUrl rootUrl) earlier text) ∧
            context.dependencies.get? (String.ofList dependency) = none ∧
            fault = .unknownDependency context.label (String.ofList dependency)) ∧
      ((∀ content, Template.Piece.group content ∈ Template.pieces template.toList →
          ∃ dependency path, Template.IsReference dependency path ∧
            content = dependency ++ '/' :: path) →
        Template.pieces template.toList = pieces.map Template.ArtifactPiece.toPiece) := by
  have searched := Template.searched_artifactPieces template.toList
  have resolved : resolveReferences context rootUrl (.obj [("artifact-reference", .str template)]) =
      ((Template.renderArtifacts context.dependencies.get? (artifactUrl rootUrl) template).mapError
        (.unknownDependency context.label)).map .str :=
    resolveReferences_reference context rootUrl _ (by decide : Placeholder.artifactReference ≠ _)
  refine ⟨_, searched, fun others found => found.eq_artifactPieces, ?_, ?_, searched.pieces_eq⟩
  · intro result
    rw [resolved, map_ok_iff]
    simp only [mapError_ok_iff, Template.renderArtifacts_ok_iff]
    constructor
    · rintro ⟨_, ⟨texts, located, rfl⟩, rfl⟩
      exact ⟨texts, located, rfl⟩
    · rintro ⟨texts, located, rfl⟩
      exact ⟨_, ⟨texts, located, rfl⟩, rfl⟩
  · intro fault
    rw [resolved, map_error_iff, mapError_error_iff]
    simp only [Template.renderArtifacts_error_iff]
    constructor
    · rintro ⟨_, ⟨before, dependency, path, after, split, earlier, unknown, rfl⟩, rfl⟩
      exact ⟨before, dependency, path, after, split, earlier, unknown, rfl⟩
    · rintro ⟨before, dependency, path, after, split, earlier, unknown, rfl⟩
      exact ⟨_, ⟨before, dependency, path, after, split, earlier, unknown, rfl⟩, rfl⟩

theorem resolveReferences_artifacts_log :
    let context : ReferenceContext := ⟨"test", "T", .ofList [("build", "B")]⟩
    ∃ pieces, Template.pieces "<build/log.txt>".toList = pieces.map Template.ArtifactPiece.toPiece ∧
      ∃ texts, List.Forall₂ (Template.Located context.dependencies.get? (artifactUrl "https://ci"))
          pieces texts ∧
        String.ofList texts.flatten = "https://ci/api/queue/v1/task/B/artifacts/log.txt" := by
  intro context
  obtain ⟨pieces, -, -, went, -, each⟩ := resolveReferences_artifacts context "https://ci" "<build/log.txt>"
  have resolved : resolveReferences context "https://ci"
      (.obj [("artifact-reference", .str "<build/log.txt>")]) =
        .ok (.str "https://ci/api/queue/v1/task/B/artifacts/log.txt") := by
    decide +kernel
  have groups : Template.pieces "<build/log.txt>".toList = [.group "build/log.txt".toList] := by
    decide +kernel
  have valid : Template.IsReference "build".toList "log.txt".toList :=
    ⟨by decide, by decide, by decide, by decide, by decide⟩
  obtain ⟨texts, located, same⟩ := (went _).mp resolved
  refine ⟨pieces, each fun content member => ?_, texts, located, (Json.str.inj same).symm⟩
  rw [groups, List.mem_singleton] at member
  cases member
  exact ⟨_, _, valid, by decide⟩

/-- Groups of other forms are copied: that of the escape, and a name without a path. -/
theorem resolveReferences_artifacts_copied :
    resolveReferences ⟨"test", "T", .empty⟩ ""
        (.obj [("artifact-reference", .str "<<>build/log.txt>")]) = .ok (.str "<<>build/log.txt>") ∧
      resolveReferences ⟨"test", "T", .ofList [("build", "B")]⟩ ""
        (.obj [("artifact-reference", .str "<build>")]) = .ok (.str "<build>") := by
  decide +kernel

end TaskPlan
