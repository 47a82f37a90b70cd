import TaskPlan.Proofs.Outcome
import TaskPlan.Proofs.Text.Runs
import TaskPlan.Reference.Placeholder

/-!
# Templates that are put together

A template can be put together from texts and names: `<` is written `<<>` in a text, and a
name stands between brackets. No bracket of a text is left open, so that the groups which are
found are those that were written (`pieces_written`), whatever characters the texts have. A
reference with such a template is resolved to the texts with the ids of the names in between,
or fails with the first name that has none (`resolveReferences_written`).
-/

namespace TaskPlan

namespace Template

variable {c : Char} {s content rest : List Char}

/-! ### Groups at the start of a text -/

/-- A bracket, what stands in it, the closing bracket and the rest of the text. -/
def bracketed (content rest : List Char) : List Char := '<' :: (content ++ '>' :: rest)

/-- What comes before the first closing bracket. -/
theorem span_closing_iff : s.span (· != '>') = (content, c :: rest) ↔
    c = '>' ∧ '>' ∉ content ∧ s = content ++ '>' :: rest := by
  rw [Text.span_eq_iff, Text.stops_cons]
  constructor
  · rintro ⟨rfl, inside, stops⟩
    have closes : c = '>' := by simpa using stops
    subst closes
    exact ⟨rfl, fun again => by simpa using inside _ again, rfl⟩
  · rintro ⟨rfl, unclosed, rfl⟩
    refine ⟨rfl, fun c member => ?_, rfl⟩
    rw [bne_iff_ne]
    rintro rfl
    exact unclosed member

theorem group?_eq_some_iff :
    group? s = some content ↔ content ≠ [] ∧ '>' ∉ content ∧ ∃ rest, s = bracketed content rest := by
  constructor
  · intro found
    unfold group? at found
    split at found
    · split at found
      · cases found
      · cases found
      · rename_i run c rest some spanned
        cases found
        obtain ⟨rfl, unclosed, rfl⟩ := span_closing_iff.mp spanned
        exact ⟨fun none => some none, unclosed, rest, rfl⟩
    · cases found
  · rintro ⟨some, unclosed, rest, rfl⟩
    have spanned : (content ++ '>' :: rest).span (· != '>') = (content, '>' :: rest) :=
      span_closing_iff.mpr ⟨rfl, unclosed, rfl⟩
    obtain ⟨c, content, rfl⟩ := List.exists_cons_of_ne_nil some
    rw [bracketed, group?, spanned]

theorem piecesFrom_append (skipped rest : List Char) :
    piecesFrom skipped.length (skipped ++ rest) = pieces rest := by
  induction skipped with
  | nil => rfl
  | cons c skipped ih => exact ih

theorem pieces_bracketed (some : content ≠ []) (unclosed : '>' ∉ content) :
    pieces (bracketed content rest) = .group content :: pieces rest := by
  have found : group? (bracketed content rest) = .some content :=
    group?_eq_some_iff.mpr ⟨some, unclosed, rest, rfl⟩
  have skipped := piecesFrom_append (content ++ ['>']) rest
  rw [List.length_append, List.append_assoc] at skipped
  rw [pieces, bracketed, piecesFrom]
  simp only [bracketed] at found
  rw [found]
  exact congrArg _ skipped

theorem pieces_char (other : c ≠ '<') : pieces (c :: rest) = .char c :: pieces rest := by
  have none : group? (c :: rest) = none := by
    rw [Option.eq_none_iff_forall_ne_some]
    rintro content found
    obtain ⟨-, -, rest, same⟩ := group?_eq_some_iff.mp found
    exact other (List.cons.inj same).1
  rw [pieces, piecesFrom, none]
  rfl

/-! ### Parts of a template -/

/-- A name that can stand between brackets: it does not end there, and it is not `<`, which
stands for itself there. -/
structure Name where
  text : String
  nonempty : text ≠ ""
  unclosed : '>' ∉ text.toList
  proper : text ≠ "<"

inductive Part where
  | literal (text : String)
  | reference (name : Name)

def escape (text : List Char) : List Char :=
  text.flatMap fun c => if c = '<' then ['<', '<', '>'] else [c]

namespace Part

def written : Part → List Char
  | .literal text => escape text.toList
  | .reference name => '<' :: (name.text.toList ++ ['>'])

def name? : Part → Option String
  | .literal _ => none
  | .reference name => some name.text

/-- The text that a part stands for. -/
def text (ids : String → String) : Part → List Char
  | .literal text => text.toList
  | .reference name => (ids name.text).toList

/-- The pieces that are found in a part. -/
def pieces : Part → List Piece
  | .literal text => text.toList.map fun c => if c = '<' then .group ['<'] else .char c
  | .reference name => [.group name.text.toList]

end Part

/-- The template that is put together from parts. -/
def written (parts : List Part) : String := String.ofList (parts.flatMap Part.written)

/-- The names in parts of a template, in their order. -/
def references (parts : List Part) : List String := parts.filterMap Part.name?

theorem pieces_escape (text : List Char) : pieces (escape text ++ rest) =
    (text.map fun c => if c = '<' then Piece.group ['<'] else .char c) ++ pieces rest := by
  induction text with
  | nil => rfl
  | cons c text ih =>
    rw [escape, List.flatMap_cons, List.append_assoc, ← escape, List.map_cons, List.cons_append, ← ih]
    split
    · have unclosed : '>' ∉ ['<'] := by simp
      exact pieces_bracketed (List.cons_ne_nil _ _) unclosed
    · rename_i other
      exact pieces_char other

theorem pieces_part (part : Part) : pieces (part.written ++ rest) = part.pieces ++ pieces rest := by
  cases part with
  | literal text => exact pieces_escape text.toList
  | reference name =>
    have some : name.text.toList ≠ [] := by simpa using name.nonempty
    rw [Part.written, List.cons_append, List.append_assoc]
    exact pieces_bracketed some name.unclosed

theorem pieces_written (parts : List Part) :
    pieces (parts.flatMap Part.written) = parts.flatMap Part.pieces := by
  induction parts with
  | nil => rfl
  | cons part parts ih => rw [List.flatMap_cons, pieces_part, ih, List.flatMap_cons]

/-! ### Rendering parts -/

section Render

variable {lookup : String → Option String} {parts : List Part}

/-- The text that pieces stand for one after the other. -/
def renderAll (lookup : String → Option String) (pieces : List Piece) : Except String (List Char) :=
  (pieces.mapM (Piece.render lookup)).map List.flatten

theorem renderAll_append (pieces others : List Piece) :
    renderAll lookup (pieces ++ others) = do
      let before ← renderAll lookup pieces
      let after ← renderAll lookup others
      return before ++ after := by
  rw [renderAll, List.mapM_append, renderAll, renderAll]
  cases pieces.mapM (Piece.render lookup) with
  | error name => rfl
  | ok before =>
    cases others.mapM (Piece.render lookup) with
    | error name => rfl
    | ok after => exact congrArg Except.ok List.flatten_append

theorem renderAll_literal (noBracket : lookup "<" = none) (text : String) :
    renderAll lookup (Part.literal text).pieces = .ok text.toList := by
  have each (c : Char) :
      Piece.render lookup (if c = '<' then .group ['<'] else .char c) = .ok [c] := by
    split
    · rename_i bracket
      have name : String.ofList ['<'] = "<" := rfl
      simp [Piece.render, name, noBracket, bracket]
    · rfl
  have rendered : (Part.literal text).pieces.mapM (Piece.render lookup) =
      .ok (text.toList.map fun c => [c]) := by
    rw [mapM_ok_iff, Part.pieces, List.forall₂_map_left_iff, List.forall₂_map_right_iff]
    exact List.forall₂_same.mpr fun c _ => each c
  rw [renderAll, rendered]
  exact congrArg Except.ok ((List.flatMap_def ..).symm.trans (List.flatMap_singleton' _))

theorem renderAll_reference (name : Name) : renderAll lookup (Part.reference name).pieces =
    match lookup name.text with
    | some id => .ok id.toList
    | none => .error name.text := by
  have rendered : Piece.render lookup (.group name.text.toList) =
      match lookup name.text with
      | some id => .ok id.toList
      | none => .error name.text := by
    rw [Piece.render, String.ofList_toList]
    cases lookup name.text with
    | some id => rfl
    | none => exact if_neg name.proper
  rw [renderAll, Part.pieces, List.mapM_cons, rendered]
  cases lookup name.text with
  | some id => exact congrArg Except.ok (List.append_nil _)
  | none => rfl

/-- Parts are rendered one after the other, if all names have ids. -/
theorem renderAll_known {ids : String → String} (noBracket : lookup "<" = none)
    (known : ∀ name ∈ references parts, lookup name = some (ids name)) :
    renderAll lookup (parts.flatMap Part.pieces) = .ok (parts.flatMap (Part.text ids)) := by
  induction parts with
  | nil => rfl
  | cons part parts ih =>
    rw [List.flatMap_cons, renderAll_append, List.flatMap_cons]
    cases part with
    | literal text =>
      rw [renderAll_literal noBracket, ih known]
      rfl
    | reference name =>
      obtain ⟨here, later⟩ := List.forall_mem_cons.mp known
      rw [renderAll_reference, here, ih later]
      rfl

/-- A failure tells the first name that has no id. -/
theorem renderAll_unknown {before after : List String} {name : String} (noBracket : lookup "<" = none)
    (split : references parts = before ++ name :: after)
    (known : ∀ earlier ∈ before, (lookup earlier).isSome) (unknown : lookup name = none) :
    renderAll lookup (parts.flatMap Part.pieces) = .error name := by
  induction parts generalizing before with
  | nil => simp [references] at split
  | cons part parts ih =>
    rw [List.flatMap_cons, renderAll_append]
    cases part with
    | literal text =>
      rw [renderAll_literal noBracket, ih split known]
      rfl
    | reference first =>
      have next : references (.reference first :: parts) = first.text :: references parts := rfl
      rw [next] at split
      rw [renderAll_reference]
      cases before with
      | nil =>
        obtain ⟨same, -⟩ := List.cons.inj split
        rw [same, unknown]
        rfl
      | cons earlier before =>
        obtain ⟨rfl, others⟩ := List.cons.inj split
        obtain ⟨here, later⟩ := List.forall_mem_cons.mp known
        obtain ⟨id, found⟩ := Option.isSome_iff_exists.mp here
        rw [found, ih others later]
        rfl

theorem render_written (lookup : String → Option String) (parts : List Part) :
    render lookup (written parts) =
      (renderAll lookup (parts.flatMap Part.pieces)).map String.ofList := by
  rw [render, written, String.toList_ofList, pieces_written, renderAll]
  cases (parts.flatMap Part.pieces).mapM (Piece.render lookup) <;> rfl

end Render

end Template

/-! ### References -/

theorem exists_first {α : Type} {known : α → Prop} {items : List α} (some : ∃ item ∈ items, ¬ known item) :
    ∃ before item after, items = before ++ item :: after ∧ (∀ earlier ∈ before, known earlier) ∧
      ¬ known item := by
  classical
  obtain ⟨item, member, unknown⟩ := some
  cases found : items.find? fun item => decide ¬ known item with
  | none => exact absurd unknown (by simpa using List.find?_eq_none.mp found item member)
  | some first =>
    obtain ⟨here, before, after, split, earlier⟩ := List.find?_eq_some_iff_append.mp found
    exact ⟨before, first, after, split, by simpa using earlier, by simpa using here⟩

namespace ReferenceContext

variable {context : ReferenceContext} {name : String}

/-- A name that a template of the task may refer to: that of a declared dependency, or `self`. -/
def Knows (context : ReferenceContext) (name : String) : Prop :=
  context.dependencies.contains name = true ∨ name = "self"

/-- The id of a declared dependency, or else that of the task itself. -/
def idOrOwn (context : ReferenceContext) (name : String) : String :=
  (context.dependencies.get? name).getD context.taskId

theorem idOf?_of_knows (known : context.Knows name) : context.idOf? name = some (context.idOrOwn name) := by
  rw [idOf?, idOrOwn]
  cases found : context.dependencies.get? name with
  | some id => rfl
  | none =>
    have own : name = "self" := known.resolve_left (by simp [KeyMap.contains, found])
    exact if_pos own

theorem idOf?_eq_none (unknown : ¬ context.Knows name) : context.idOf? name = none := by
  obtain ⟨undeclared, other⟩ := not_or.mp unknown
  rw [KeyMap.contains, Bool.not_eq_true, Option.isSome_eq_false_iff, Option.isNone_iff_eq_none] at undeclared
  rw [idOf?, undeclared]
  exact if_neg other

end ReferenceContext

theorem resolveReferences_reference (context : ReferenceContext) (rootUrl template : String)
    {kind : Placeholder} (reference : kind ≠ .relativeDatestamp) :
    resolveReferences context rootUrl (.obj [(kind.key, .str template)]) =
      ((context.render rootUrl template kind).mapError (.unknownDependency context.label)).map .str := by
  have found : Placeholder.find? [.taskReference, .artifactReference] [(kind.key, .str template)] =
      some (kind, .str template) := by
    cases kind with
    | relativeDatestamp => exact absurd rfl reference
    | taskReference => rfl
    | artifactReference => rfl
  have content : Placeholder.content context.label kind (.str template) = .ok template := rfl
  rw [resolveReferences, Placeholder.replace, found]
  simp only [content]
  cases rendered : context.render rootUrl template kind with
  | ok text => simp only [Except.mapError, Except.map, bind, Except.bind, rendered]; rfl
  | error name => simp only [Except.mapError, Except.map, bind, Except.bind, rendered]

/-- A reference whose template is put together from texts and names, of which the task knows
all, is resolved to the texts with the ids of the names in between. If there are names that it
does not know, the failure tells the first of them. -/
theorem resolveReferences_written (context : ReferenceContext) (rootUrl : String)
    (parts : List Template.Part) (noBracket : context.dependencies.contains "<" = false) :
    ((∀ name ∈ Template.references parts, context.Knows name) →
      resolveReferences context rootUrl (.obj [("task-reference", .str (Template.written parts))]) =
        .ok (.str (String.ofList (parts.flatMap (Template.Part.text context.idOrOwn))))) ∧
    ((∃ name ∈ Template.references parts, ¬ context.Knows name) →
      ∃ before name after, Template.references parts = before ++ name :: after ∧
        (∀ earlier ∈ before, context.Knows earlier) ∧ ¬ context.Knows name ∧
        resolveReferences context rootUrl (.obj [("task-reference", .str (Template.written parts))]) =
          .error (.unknownDependency context.label name)) := by
  have unbracketed : context.idOf? "<" = none := by
    refine ReferenceContext.idOf?_eq_none (not_or.mpr ⟨by simp [noBracket], by decide⟩)
  have resolved : resolveReferences context rootUrl
      (.obj [("task-reference", .str (Template.written parts))]) =
        ((Template.render context.idOf? (Template.written parts)).mapError
          (.unknownDependency context.label)).map .str :=
    resolveReferences_reference context rootUrl _ (by decide : Placeholder.taskReference ≠ _)
  rw [resolved, Template.render_written]
  constructor
  · intro known
    rw [Template.renderAll_known unbracketed fun name member =>
      ReferenceContext.idOf?_of_knows (known name member)]
    rfl
  · intro unknown
    obtain ⟨before, name, after, split, known, unknown⟩ := exists_first unknown
    have ids : ∀ earlier ∈ before, (context.idOf? earlier).isSome := by
      intro earlier member
      rw [ReferenceContext.idOf?_of_knows (known earlier member)]
      rfl
    refine ⟨before, name, after, split, known, unknown, ?_⟩
    rw [Template.renderAll_unknown unbracketed split ids (ReferenceContext.idOf?_eq_none unknown)]
    rfl

/-- Texts with brackets of both kinds around a name that begins with one. -/
def bracketParts : List Template.Part :=
  [.literal "<b>", .reference ⟨"self", by decide, by decide, by decide⟩, .literal "><",
    .reference ⟨"<x", by decide, by decide, by decide⟩]

theorem resolveReferences_written_brackets :
    Template.written bracketParts = "<<>b><self>><<><<x>" ∧
      resolveReferences ⟨"test", "T", .ofList [("<x", "X")]⟩ ""
          (.obj [("task-reference", .str (Template.written bracketParts))]) = .ok (.str "<b>T><X") ∧
      ∃ before name after, Template.references bracketParts = before ++ name :: after ∧
        (∀ earlier ∈ before, (ReferenceContext.mk "test" "T" .empty).Knows earlier) ∧
        ¬ (ReferenceContext.mk "test" "T" .empty).Knows name ∧
        resolveReferences ⟨"test", "T", .empty⟩ ""
            (.obj [("task-reference", .str (Template.written bracketParts))]) =
          .error (.unknownDependency "test" name) := by
  refine ⟨by decide, ?_, ?_⟩
  · refine (resolveReferences_written ⟨"test", "T", .ofList [("<x", "X")]⟩ "" bracketParts
      (by decide)).1 ?_
    intro name member
    rcases List.mem_cons.mp member with rfl | member
    · exact .inr rfl
    · cases List.mem_singleton.mp member
      exact .inl (by decide)
  · refine (resolveReferences_written ⟨"test", "T", .empty⟩ "" bracketParts (by decide)).2 ?_
    exact ⟨"<x", List.mem_cons_of_mem _ List.mem_cons_self, not_or.mpr ⟨by decide, by decide⟩⟩

end TaskPlan
