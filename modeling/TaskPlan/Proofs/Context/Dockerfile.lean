import TaskPlan.Proofs.Context.Substitution

/-!
# Expanded Dockerfiles

If all declared arguments are given, the content that counts of a Dockerfile is made of its lines
without the directives of arguments. In each of them the references to the names declared before
it are replaced, by one name after the other (`contextHash_expanded`). The text in place of a
reference is what the value is filled to, and this is the value itself only if no dollar sign in
it stands before a group or another dollar sign. So values that differ can give the same content
(`contextHash_expanded_dollars`).
-/

namespace TaskPlan

namespace Dockerfile

def declared? (line : List Char) : Option (List Char) :=
  (Text.dropHead? argumentMark.toList line).map Text.trimChars

def included? (line : List Char) : Option String :=
  (Text.dropHead? includeMark.toList line).map fun path => String.ofList (Text.trimChars path)

/-- The lines that are no directives of arguments, each with the names declared before it. -/
def kept : (names : List (List Char)) → List (List Char) → List (List (List Char) × List Char)
  | _, [] => []
  | names, line :: rest =>
    match declared? line with
    | some name => kept (names ++ [name]) rest
    | none => (names, line) :: kept names rest

def valueOf (arguments : KeyMap String) (name : List Char) : List Char :=
  ((arguments.get? (String.ofList name)).getD "").toList

/-- All arguments that the lines declare are given. -/
def Given (arguments : KeyMap String) (lines : List (List Char)) : Prop :=
  ∀ line ∈ lines, ∀ name ∈ declared? line, (arguments.get? (String.ofList name)).isSome = true

instance : Decidable (Given arguments lines) :=
  inferInstanceAs (Decidable (∀ line ∈ lines, ∀ name ∈ declared? line, _))

def meant (arguments : KeyMap String) (names : List (List Char)) : Meanings :=
  names.map fun name => (name, valueOf arguments name)

/-- Names with what their values are filled to as templates. -/
def filled (arguments : KeyMap String) (names : List (List Char)) : Meanings :=
  names.map fun name => (name, fill ('$' :: name) 0 (valueOf arguments name))

/-- Values stand for themselves in the line. If there are several, they have no dollar sign, and
no reference to a name is made or lost when one next to it is replaced. -/
structure Undisturbed (arguments : KeyMap String) (names : List (List Char)) (line : List Char) : Prop where
  literal : ∀ name ∈ names, Literal (valueOf arguments name)
  apart : names.length ≤ 1 ∨ (∀ name ∈ names, '$' ∉ valueOf arguments name) ∧ Apart names line

def content (arguments : KeyMap String) (lines : List (List Char)) : List Char :=
  (expandLines arguments [] lines).1.content

variable {arguments other : KeyMap String} {names lines : List (List Char)} {line result name : List Char}

/-! ### Lines -/

theorem Given.rest (given : Given arguments (line :: lines)) : Given arguments lines :=
  fun later member => given later (List.mem_cons_of_mem line member)

theorem Undisturbed.replaced (undisturbed : Undisturbed arguments names line)
    (successively : Successively (filled arguments names) line result) :
    Replaced (meant arguments names) line result := by
  have own : filled arguments names = meant arguments names := by
    refine List.map_congr_left fun name member => ?_
    rw [fill_of_literal _ (undisturbed.literal name member)]
  rw [own] at successively
  rcases undisturbed.apart with single | ⟨plain, apart⟩
  · match names, single, successively with
    | [], _, .done => exact replaced_self line
    | [_], _, .next replaced .done => exact replaced
  · refine replaced_of_successively ?_ ?_ successively
    · intro entry member
      obtain ⟨name, declared, rfl⟩ := List.mem_map.mp member
      exact plain name declared
    · rwa [meant, List.map_map, show Prod.fst ∘ (fun name => (name, valueOf arguments name)) = id from rfl,
        List.map_id]

def replacementsOf (arguments : KeyMap String) (names : List (List Char)) : Replacements :=
  (meant arguments names).map fun entry => ('$' :: entry.1, entry.2)

theorem expand_replacementsOf (arguments : KeyMap String) (names : List (List Char)) (line : List Char) :
    Successively (filled arguments names) line (expand (replacementsOf arguments names) line) := by
  have successively := expand_successively (meant arguments names) line
  rwa [meant, List.map_map] at successively

theorem expandLines_eq (given : Given arguments lines) (names : List (List Char)) :
    expandLines arguments (replacementsOf arguments names) lines =
      (⟨((kept names lines).map fun line => expand (replacementsOf arguments line.1) line.2).flatten,
        ((kept names lines).map fun line => expand (replacementsOf arguments line.1) line.2).filterMap included?⟩,
        none) := by
  induction lines generalizing names with
  | nil => rfl
  | cons line lines ih =>
    have later := ih given.rest
    rw [expandLines, kept]
    cases found : Text.dropHead? argumentMark.toList line with
    | some after =>
      have declared : declared? line = some (Text.trimChars after) := by rw [declared?, found, Option.map_some]
      obtain ⟨value, present⟩ := Option.isSome_iff_exists.mp (given line List.mem_cons_self _ declared)
      have added : replacementsOf arguments names ++ [('$' :: Text.trimChars after, value.toList)] =
          replacementsOf arguments (names ++ [Text.trimChars after]) := by
        simp [replacementsOf, meant, valueOf, present]
      rw [declared]
      simp only [present, added, later]
    | none =>
      have plain : declared? line = none := by rw [declared?, found, Option.map_none]
      rw [plain]
      simp only [later, List.map_cons, List.flatten_cons, List.filterMap_cons, included?]
      cases Text.dropHead? includeMark.toList (expand (replacementsOf arguments names) line) <;> rfl

theorem kept_append (plain : ∀ line ∈ lines, declared? line = none) (names more : List (List Char)) :
    kept names (lines ++ more) = lines.map (fun line => (names, line)) ++ kept names more := by
  induction lines with
  | nil => rfl
  | cons line lines ih =>
    obtain ⟨here, later⟩ := List.forall_mem_cons.mp plain
    rw [List.cons_append, kept, here]
    dsimp only
    rw [ih later, List.map_cons, List.cons_append]

/-! ### A single argument -/

/-- The lines declare one argument, and one of those after the directive refers to it. -/
def DeclaresOnly (name : List Char) (lines : List (List Char)) : Prop :=
  ∃ before directive after, lines = before ++ directive :: after ∧ declared? directive = some name ∧
    (∀ line ∈ before ++ after, declared? line = none) ∧ ∃ line ∈ after, Used name line

theorem content_of_declaresOnly (only : DeclaresOnly name lines) :
    ∃ pieces : Pieces, none ∈ pieces ∧ ∀ arguments, Given arguments lines →
      content arguments lines = pieces.filled (fill ('$' :: name) 0 (valueOf arguments name)) := by
  obtain ⟨before, directive, after, rfl, declared, plain, line, member, used⟩ := only
  rw [List.forall_mem_append] at plain
  choose pieces some_place replaced using exists_pieces name
  refine ⟨before.map some ++ after.flatMap pieces, ?_, fun arguments given => ?_⟩
  · exact List.mem_append_right _ (List.mem_flatMap.mpr ⟨line, member, some_place line used⟩)
  · have lines : kept [] (before ++ directive :: after) =
        before.map (fun line => ([], line)) ++ after.map fun line => ([name], line) := by
      have rest := kept_append plain.2 [name] []
      rw [List.append_nil, kept, List.append_nil] at rest
      rw [kept_append plain.1, kept, declared]
      exact congrArg _ rest
    have single (line : List Char) : expand (replacementsOf arguments [name]) line =
        (pieces line).filled (fill ('$' :: name) 0 (valueOf arguments name)) := by
      have successively := expand_replacementsOf arguments [name] line
      cases successively with
      | next here later =>
        cases later
        exact here.unique (replaced line _)
    have unexpanded (line : List Char) : expand (replacementsOf arguments []) line = line := rfl
    have contents := congrArg (fun expanded => expanded.1.content) (expandLines_eq given [])
    rw [lines, List.map_append, List.map_map, List.map_map, List.flatten_append] at contents
    simp only [Function.comp_def, unexpanded, single, List.map_id'] at contents
    rw [filled_append, filled_copied, filled_flatMap]
    exact contents

/-! ### The content that is hashed -/

/-- If all declared arguments are given, the content of the Dockerfile that is hashed consists of
its lines without the directives of arguments, in each of which the references to the names
declared before it are replaced, and all else is copied. Texts in place of references are the
values as far as these stand for themselves. For a single name values give the same content
exactly if they are filled to the same text. -/
theorem contextHash_expanded {text : String} (given : Given arguments (Text.lines text.toList)) :
    (∀ name text, Fills ('$' :: name) (valueOf arguments name) text ↔
      text = fill ('$' :: name) 0 (valueOf arguments name)) ∧
    (∃ results, List.Forall₂ (fun line result =>
          Successively (filled arguments line.1) line.2 result ∧
          (Undisturbed arguments line.1 line.2 → Replaced (meant arguments line.1) line.2 result))
        (kept [] (Text.lines text.toList)) results ∧
      expandLines arguments [] (Text.lines text.toList) =
        (⟨results.flatten, results.filterMap included?⟩, none) ∧
      ∀ tree source directory, tree.readText (Path.join source "Dockerfile") = .ok text →
        contextHash tree source directory arguments = do
          let hasher ← ContextHasher.empty.addDirectory tree source directory
          let hasher ← (results.filterMap included?).foldlM (addInclude tree directory) hasher
          return (hasher.add (ContextHasher.archivePath directory ["Dockerfile"])
            (Bytes.ofText (String.ofList results.flatten))).digest) ∧
    ∀ name other, DeclaresOnly name (Text.lines text.toList) → Given other (Text.lines text.toList) →
      (content arguments (Text.lines text.toList) = content other (Text.lines text.toList) ↔
        fill ('$' :: name) 0 (valueOf arguments name) = fill ('$' :: name) 0 (valueOf other name)) ∧
      (Literal (valueOf arguments name) → Literal (valueOf other name) →
        valueOf arguments name ≠ valueOf other name →
        content arguments (Text.lines text.toList) ≠ content other (Text.lines text.toList)) := by
  have expanded : expandLines arguments [] (Text.lines text.toList) = _ := expandLines_eq given []
  refine ⟨fun name text => fills_iff, ⟨_, ?_, expanded, ?_⟩, ?_⟩
  · rw [List.forall₂_map_right_iff]
    refine List.forall₂_same.mpr fun line _ => ?_
    have successively := expand_replacementsOf arguments line.1 line.2
    exact ⟨successively, fun undisturbed => undisturbed.replaced successively⟩
  · intro tree source directory read
    rw [contextHash]
    refine bind_congr fun hasher => ?_
    rw [read]
    simp only [bind, Except.bind, expanded]
  · intro name other only otherGiven
    obtain ⟨pieces, somewhere, contents⟩ := content_of_declaresOnly only
    have same : content arguments (Text.lines text.toList) = content other (Text.lines text.toList) ↔
        fill ('$' :: name) 0 (valueOf arguments name) = fill ('$' :: name) 0 (valueOf other name) := by
      rw [contents arguments given, contents other otherGiven]
      exact (filled_injective somewhere).eq_iff
    refine ⟨same, fun literal otherLiteral differ => ?_⟩
    rwa [Ne, same, fill_of_literal _ literal, fill_of_literal _ otherLiteral]

/-! ### Base images -/

def baseText : String := "# %ARG BASE\nFROM $BASE\n"

def taggedText : String := "# %ARG BASE\n# %ARG TAG\nFROM $BASE:$TAG\n"

def debian : KeyMap String := .ofList [("BASE", "debian"), ("TAG", "12")]

def alpine : KeyMap String := .ofList [("BASE", "alpine")]

def baseAndTag : List (List Char) := ["BASE".toList, "TAG".toList]

def taggedLine : List Char := "FROM $BASE:$TAG\n".toList

theorem taggedLine_undisturbed : Undisturbed debian baseAndTag taggedLine := by
  have plain : ∀ name ∈ baseAndTag, '$' ∉ valueOf debian name := by decide +kernel
  have ended : Apart baseAndTag [] := by
    intro before text after shape
    simp at shape
  have tag : Apart baseAndTag ('$' :: ("TAG\n".toList ++ [])) := ended.cons_block (by decide) (.inl rfl)
  have base : Apart baseAndTag ('$' :: ("BASE:".toList ++ '$' :: ("TAG\n".toList ++ []))) :=
    tag.cons_block (by decide) (.inr (by decide))
  have line : Apart baseAndTag taggedLine := base.of_append (show '$' ∉ "FROM ".toList by decide)
  exact ⟨fun name member => literal_of_plain (plain name member), .inr ⟨plain, line⟩⟩

/-- Two names in one line, and two values of a single name. -/
theorem contextHash_expanded_debian :
    Replaced (meant debian baseAndTag) taggedLine (content debian (Text.lines taggedText.toList)) ∧
    content debian (Text.lines baseText.toList) ≠ content alpine (Text.lines baseText.toList) := by
  constructor
  · obtain ⟨-, ⟨results, each, expanded, -⟩, -⟩ := @contextHash_expanded debian taggedText (by decide +kernel)
    have lines : kept [] (Text.lines taggedText.toList) = [(baseAndTag, taggedLine)] := by decide +kernel
    rw [lines] at each
    cases each with
    | @cons _ result _ _ here later =>
      cases later
      have replaced := here.2 taggedLine_undisturbed
      rw [content, expanded]
      simpa using replaced
  · obtain ⟨-, -, single⟩ := @contextHash_expanded debian baseText (by decide +kernel)
    have used : Used "BASE".toList "FROM $BASE\n".toList :=
      ⟨"FROM ".toList, _, "\n".toList, rfl, rfl, by decide +kernel⟩
    have only : DeclaresOnly "BASE".toList (Text.lines baseText.toList) :=
      ⟨[], "# %ARG BASE\n".toList, ["FROM $BASE\n".toList], by decide +kernel, by decide +kernel,
        by decide +kernel, _, List.mem_singleton_self _, used⟩
    obtain ⟨-, differ⟩ := single "BASE".toList alpine only (by decide +kernel)
    exact differ (literal_of_plain (by decide +kernel)) (literal_of_plain (by decide +kernel)) (by decide +kernel)

/-! ### Values with dollar signs -/

def echoText : String := "# %ARG A\n$A\n"

def twoDollars : KeyMap String := .ofList [("A", "$$")]

def oneDollar : KeyMap String := .ofList [("A", "$")]

def pairText : String := "# %ARG B\n# %ARG A\n$A$B\n"

def pair : KeyMap String := .ofList [("A", "y"), ("B", "x")]

/-- Two values of the only name that is declared give the same content, and so contexts with the
same hash. And with two names a reference is lost, as the text in place of the one after it goes
on with its name. -/
theorem contextHash_expanded_dollars :
    (Given twoDollars (Text.lines echoText.toList) ∧ Given oneDollar (Text.lines echoText.toList) ∧
      DeclaresOnly "A".toList (Text.lines echoText.toList) ∧
      valueOf twoDollars "A".toList ≠ valueOf oneDollar "A".toList ∧
      content twoDollars (Text.lines echoText.toList) = "$\n".toList ∧
      content oneDollar (Text.lines echoText.toList) = "$\n".toList ∧
      ∀ tree source directory, tree.readText (Path.join source "Dockerfile") = .ok echoText →
        contextHash tree source directory twoDollars = contextHash tree source directory oneDollar) ∧
    Given pair (Text.lines pairText.toList) ∧
      Replaced (meant pair ["B".toList, "A".toList]) "$A$B\n".toList "yx\n".toList ∧
      content pair (Text.lines pairText.toList) = "$Ax\n".toList := by
  have given : Given twoDollars (Text.lines echoText.toList) := by decide +kernel
  have givenOne : Given oneDollar (Text.lines echoText.toList) := by decide +kernel
  have used : Used "A".toList "$A\n".toList := ⟨[], _, "\n".toList, rfl, rfl, by decide +kernel⟩
  have only : DeclaresOnly "A".toList (Text.lines echoText.toList) :=
    ⟨[], "# %ARG A\n".toList, ["$A\n".toList], by decide +kernel, by decide +kernel, by decide +kernel,
      _, List.mem_singleton_self _, used⟩
  have same : expandLines twoDollars [] (Text.lines echoText.toList) =
      expandLines oneDollar [] (Text.lines echoText.toList) := by rfl
  refine ⟨⟨given, givenOne, only, by decide +kernel, by decide +kernel, by decide +kernel, ?_⟩,
    by decide +kernel, ?_, by decide +kernel⟩
  · intro tree source directory read
    rw [contextHash, contextHash]
    refine bind_congr fun hasher => ?_
    rw [read]
    simp only [bind, Except.bind, same]
  · have feed : Replaced (meant pair ["B".toList, "A".toList]) "\n".toList "\n".toList :=
      (replaced_cons_iff (by decide)).mpr ⟨[], rfl, .done⟩
    have first : Refers "A".toList "$A$B\n".toList "$B\n".toList := ⟨rfl, by decide +kernel⟩
    have second : Refers "B".toList "$B\n".toList "\n".toList := ⟨rfl, by decide +kernel⟩
    refine .reference (.later (fun after refers => ?_) (.here first)) (.reference (.here second) feed)
    have shape := refers.1
    simp at shape

end Dockerfile

end TaskPlan
