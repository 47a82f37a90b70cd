import TaskPlan.Proofs.Context.Template

/-!
# References in lines

A reference is a dollar sign before a name that ends at a boundary of words. If names are given
texts, references are replaced from the left and all else is copied (`Replaced`). A substitution
does this for a single name, with what its template is filled to (`substitute_replaced`), and
lines are expanded by one substitution after the other (`Successively`). As long as no reference
comes about or is lost between two of them, this replaces all references at once
(`replaced_of_successively`).
-/

namespace TaskPlan

namespace Dockerfile

/-- Names and the texts in place of references to them. -/
abbrev Meanings := List (List Char × List Char)

/-- The line starts with a reference to the name, and the rest comes after it. -/
def Refers (name line rest : List Char) : Prop :=
  line = '$' :: (name ++ rest) ∧ isWordBoundary ('$' :: name).getLast? rest.head? = true

/-- The line starts with a reference to a name. Of the names that it can be the first one counts,
which has this text. -/
inductive Referred : Meanings → (line text rest : List Char) → Prop where
  | here {name line text rest : List Char} {others : Meanings} (refers : Refers name line rest) :
      Referred ((name, text) :: others) line text rest
  | later {name own line text rest : List Char} {others : Meanings} (not : ∀ after, ¬ Refers name line after)
      (referred : Referred others line text rest) : Referred ((name, own) :: others) line text rest

/-- In the result texts are in the place of the references of the line, found from the left. -/
inductive Replaced (meanings : Meanings) : (line result : List Char) → Prop where
  | done : Replaced meanings [] []
  | reference {line text rest result : List Char} (referred : Referred meanings line text rest)
      (later : Replaced meanings rest result) : Replaced meanings line (text ++ result)
  | copied {c : Char} {rest result : List Char} (none : ∀ text after, ¬ Referred meanings (c :: rest) text after)
      (later : Replaced meanings rest result) : Replaced meanings (c :: rest) (c :: result)

/-- References are replaced by one name after the other. -/
inductive Successively : Meanings → (line result : List Char) → Prop where
  | done {line : List Char} : Successively [] line line
  | next {entry : List Char × List Char} {rest : Meanings} {line middle result : List Char}
      (replaced : Replaced [entry] line middle) (later : Successively rest middle result) :
      Successively (entry :: rest) line result

variable {name text line middle result rest after : List Char} {meanings others : Meanings}
  {names : List (List Char)} {c : Char}

/-! ### Replacing -/

theorem Refers.unique {other : List Char} (refers : Refers name line rest) (again : Refers name line other) :
    rest = other := by
  have same := refers.1.symm.trans again.1
  simpa using same

theorem referred_cons_iff {own : List Char} : Referred ((name, own) :: others) line text rest ↔
    Refers name line rest ∧ text = own ∨ (∀ after, ¬ Refers name line after) ∧ Referred others line text rest := by
  constructor
  · intro referred
    cases referred with
    | here refers => exact .inl ⟨refers, rfl⟩
    | later not referred => exact .inr ⟨not, referred⟩
  · rintro (⟨refers, rfl⟩ | ⟨not, referred⟩)
    · exact .here refers
    · exact .later not referred

theorem referred_single_iff {own : List Char} :
    Referred [(name, own)] line text rest ↔ Refers name line rest ∧ text = own := by
  rw [referred_cons_iff]
  constructor
  · rintro (here | ⟨-, nothing⟩)
    · exact here
    · cases nothing
  · exact .inl

theorem Referred.shape (referred : Referred meanings line text rest) : ∃ name, line = '$' :: (name ++ rest) := by
  induction referred with
  | here refers => exact ⟨_, refers.1⟩
  | later _ _ ih => exact ih

theorem Referred.unique {other otherRest : List Char} (referred : Referred meanings line text rest)
    (again : Referred meanings line other otherRest) : text = other ∧ rest = otherRest := by
  induction referred with
  | here refers =>
    cases again with
    | here more => exact ⟨rfl, refers.unique more⟩
    | later not _ => exact absurd refers (not _)
  | later not _ ih =>
    cases again with
    | here more => exact absurd more (not _)
    | later _ referred => exact ih referred

theorem replaced_nil_iff : Replaced meanings [] result ↔ result = [] := by
  constructor
  · intro replaced
    cases replaced with
    | done => rfl
    | reference referred _ =>
      obtain ⟨name, shape⟩ := referred.shape
      cases shape
  · rintro rfl
    exact .done

theorem Replaced.unique {other : List Char} (replaced : Replaced meanings line result)
    (again : Replaced meanings line other) : result = other := by
  induction replaced generalizing other with
  | done => exact (replaced_nil_iff.mp again).symm
  | reference referred _ ih =>
    cases again with
    | done =>
      obtain ⟨name, shape⟩ := referred.shape
      cases shape
    | reference more later =>
      obtain ⟨rfl, rfl⟩ := referred.unique more
      rw [ih later]
    | copied none _ => exact absurd referred (none _ _)
  | copied none _ ih =>
    cases again with
    | reference more _ => exact absurd more (none _ _)
    | copied _ later => rw [ih later]

theorem replaced_cons_iff (plain : c ≠ '$') :
    Replaced meanings (c :: rest) result ↔ ∃ more, result = c :: more ∧ Replaced meanings rest more := by
  have none (text after : List Char) : ¬ Referred meanings (c :: rest) text after := by
    intro referred
    obtain ⟨name, shape⟩ := referred.shape
    exact plain (List.cons.inj shape).1
  constructor
  · intro replaced
    cases replaced with
    | reference referred _ => exact absurd referred (none _ _)
    | copied _ later => exact ⟨_, rfl, later⟩
  · rintro ⟨more, rfl, later⟩
    exact .copied none later

theorem replaced_append_iff (plain : '$' ∉ text) :
    Replaced meanings (text ++ line) result ↔ ∃ more, result = text ++ more ∧ Replaced meanings line more := by
  induction text generalizing result with
  | nil => simp
  | cons c text ih =>
    rw [List.mem_cons, not_or] at plain
    rw [List.cons_append, replaced_cons_iff (Ne.symm plain.1)]
    simp only [ih plain.2]
    constructor
    · rintro ⟨_, rfl, more, rfl, replaced⟩
      exact ⟨more, rfl, replaced⟩
    · rintro ⟨more, rfl, replaced⟩
      exact ⟨_, rfl, more, rfl, replaced⟩

theorem replaced_self (line : List Char) : Replaced [] line line := by
  induction line with
  | nil => exact .done
  | cons c line ih => exact .copied nofun ih

/-! ### Substitutions -/

theorem startsReference_iff : startsReference ('$' :: name) line = true ↔ ∃ rest, Refers name line rest := by
  unfold startsReference
  constructor
  · intro starts
    split at starts
    · rename_i rest found
      exact ⟨rest, Text.dropHead?_eq_some.mp found, starts⟩
    · cases starts
  · rintro ⟨rest, shape, boundary⟩
    have found : Text.dropHead? ('$' :: name) line = some rest := Text.dropHead?_eq_some.mpr shape
    rw [found]
    exact boundary

theorem substitute_append (reference template skipped rest : List Char) :
    substitute reference template skipped.length (skipped ++ rest) = substitute reference template 0 rest := by
  induction skipped with
  | nil => rfl
  | cons c skipped ih => exact ih

theorem substitute_replaced (name template line : List Char) :
    Replaced [(name, fill ('$' :: name) 0 template)] line (substitute ('$' :: name) template 0 line) := by
  induction size : line.length using Nat.strongRecOn generalizing line with
  | ind bound ih =>
    cases line with
    | nil => exact .done
    | cons c rest =>
      rw [substitute]
      by_cases starts : startsReference ('$' :: name) (c :: rest) = true
      · obtain ⟨after, refers⟩ := startsReference_iff.mp starts
        obtain ⟨rfl, rfl⟩ := List.cons.inj refers.1
        have skipped := substitute_append ('$' :: name) template name after
        rw [if_pos starts, List.length_cons, Nat.add_sub_cancel, skipped]
        refine .reference (.here refers) (ih after.length ?_ after rfl)
        rw [← size, List.length_cons, List.length_append]
        omega
      · rw [if_neg starts]
        refine .copied ?_ (ih rest.length (by rw [← size, List.length_cons]; omega) rest rfl)
        intro text after referred
        exact starts (startsReference_iff.mpr ⟨after, (referred_single_iff.mp referred).1⟩)

theorem expand_successively (entries : Meanings) (line : List Char) :
    Successively (entries.map fun entry => (entry.1, fill ('$' :: entry.1) 0 entry.2)) line
      (expand (entries.map fun entry => ('$' :: entry.1, entry.2)) line) := by
  induction entries generalizing line with
  | nil => exact .done
  | cons entry entries ih => exact .next (substitute_replaced entry.1 entry.2 line) (ih _)

/-! ### All references at once -/

/-- Between two dollar signs there is no text that a name starts with. -/
def Apart (names : List (List Char)) (line : List Char) : Prop :=
  ∀ before text after, line = before ++ '$' :: (text ++ '$' :: after) → '$' ∉ text →
    ∀ name ∈ names, ¬ text <+: name

theorem Apart.append {front : List Char} (apart : Apart names (front ++ line)) : Apart names line := by
  intro before text after shape
  exact apart (front ++ before) text after (by rw [shape, List.append_assoc])

theorem Apart.tail (apart : Apart names (c :: line)) : Apart names line :=
  Apart.append (show Apart names ([c] ++ line) from apart)

theorem Apart.of_append (apart : Apart names line) (plain : '$' ∉ text) : Apart names (text ++ line) := by
  induction text with
  | nil => exact apart
  | cons c text ih =>
    rw [List.mem_cons, not_or] at plain
    intro before inside after shape
    cases before with
    | nil => exact absurd (List.cons.inj shape).1.symm plain.1
    | cons first before => exact ih plain.2 before inside after (List.cons.inj shape).2

theorem Apart.subset {more : List (List Char)} (apart : Apart names line) (subset : more ⊆ names) :
    Apart more line := fun before text after shape plain name member =>
  apart before text after shape plain name (subset member)

theorem exists_block (line : List Char) :
    ∃ block tail, line = block ++ tail ∧ '$' ∉ block ∧ (tail = [] ∨ ∃ more, tail = '$' :: more) := by
  induction line with
  | nil => exact ⟨[], [], rfl, List.not_mem_nil, .inl rfl⟩
  | cons c line ih =>
    by_cases dollar : c = '$'
    · subst dollar
      exact ⟨[], _, rfl, List.not_mem_nil, .inr ⟨line, rfl⟩⟩
    · obtain ⟨block, tail, rfl, plain, ends⟩ := ih
      exact ⟨c :: block, tail, rfl, by simp [Ne.symm dollar, plain], ends⟩

/-- Nothing comes after the block, or no name starts with it. -/
def Ends (names : List (List Char)) (block tail other : List Char) : Prop :=
  tail = [] ∧ other = [] ∨ ∀ name ∈ names, ¬ block <+: name

section Block

variable {block tail other : List Char}

theorem Ends.symm (ends : Ends names block tail other) : Ends names block other tail := ends.imp_left And.symm

/-- A reference in a block does not depend on what comes after the block. -/
theorem refers_block (ends : tail = [] ∧ other = [] ∨ ¬ block <+: name)
    (refers : Refers name ('$' :: (block ++ tail)) after) :
    ∃ more, block = name ++ more ∧ after = more ++ tail ∧ Refers name ('$' :: (block ++ other)) (more ++ other) := by
  obtain ⟨shape, boundary⟩ := refers
  have parts : block ++ tail = name ++ after := (List.cons.inj shape).2
  rcases ends with ⟨rfl, rfl⟩ | longer
  · rw [List.append_nil] at parts
    exact ⟨after, parts, (List.append_nil after).symm, by simp [parts], by rwa [List.append_nil]⟩
  · rcases List.append_eq_append_iff.mp parts with ⟨more, longName, -⟩ | ⟨more, rfl, rfl⟩
    · exact absurd ⟨more, longName.symm⟩ longer
    · cases more with
      | nil => exact absurd (by simp) longer
      | cons c more => exact ⟨c :: more, rfl, rfl, by simp, boundary⟩

theorem Referred.of_block (ends : Ends (meanings.map Prod.fst) block tail other)
    (referred : Referred meanings ('$' :: (block ++ tail)) text after) :
    ∃ front more, block = front ++ more ∧ after = more ++ tail ∧
      Referred meanings ('$' :: (block ++ other)) text (more ++ other) := by
  induction meanings with
  | nil => cases referred
  | cons entry meanings ih =>
    have here : tail = [] ∧ other = [] ∨ ¬ block <+: entry.1 :=
      ends.imp_right fun longer => longer entry.1 List.mem_cons_self
    cases referred with
    | here refers =>
      obtain ⟨more, shape, rest, there⟩ := refers_block here refers
      exact ⟨_, more, shape, rest, .here there⟩
    | later not referred =>
      have laterEnds : Ends (meanings.map Prod.fst) block tail other := ends.imp_right fun longer name member =>
        longer name (List.mem_cons_of_mem _ member)
      obtain ⟨front, more, shape, rest, there⟩ := ih laterEnds referred
      refine ⟨front, more, shape, rest, .later (fun after refers => ?_) there⟩
      obtain ⟨_, -, -, back⟩ := refers_block (here.imp_left And.symm) refers
      exact not _ back

end Block

theorem exists_ends (apart : Apart names ('$' :: rest)) (replaced : Replaced meanings rest middle) :
    ∃ block tail middleTail, rest = block ++ tail ∧ middle = block ++ middleTail ∧ '$' ∉ block ∧
      Replaced meanings tail middleTail ∧ Ends names block tail middleTail := by
  obtain ⟨block, tail, rfl, plain, ends⟩ := exists_block rest
  obtain ⟨middleTail, rfl, tailReplaced⟩ := (replaced_append_iff plain).mp replaced
  refine ⟨block, tail, middleTail, rfl, rfl, plain, tailReplaced, ?_⟩
  rcases ends with rfl | ⟨more, rfl⟩
  · exact .inl ⟨rfl, replaced_nil_iff.mp tailReplaced⟩
  · exact .inr (apart [] block more rfl plain)

/-- One name more. The induction is on the length of the line, as a reference is passed over
as a whole. -/
theorem replaced_cons_of_replaced {own : List Char} (plainText : '$' ∉ own)
    (apart : Apart (others.map Prod.fst) line) (first : Replaced [(name, own)] line middle)
    (second : Replaced others middle result) : Replaced ((name, own) :: others) line result := by
  induction size : line.length using Nat.strongRecOn generalizing line middle result with
  | ind bound ih =>
    have shorter {front rest more last : List Char} (split : line = front ++ rest) (some : front ≠ [])
        (later : Replaced [(name, own)] rest more) (following : Replaced others more last) :
        Replaced ((name, own) :: others) rest last := by
      have positive := List.length_pos_iff.mpr some
      refine ih rest.length ?_ (Apart.append (split ▸ apart)) later following rfl
      rw [← size, split, List.length_append]
      omega
    cases first with
    | done =>
      rw [replaced_nil_iff.mp second]
      exact .done
    | reference referred later =>
      obtain ⟨refers, rfl⟩ := referred_single_iff.mp referred
      obtain ⟨last, rfl, following⟩ := (replaced_append_iff plainText).mp second
      have split : line = ('$' :: name) ++ _ := refers.1
      exact .reference (.here refers) (shorter split (by simp) later following)
    | @copied c rest more none later =>
      have notHere (after : List Char) : ¬ Refers name (c :: rest) after := fun refers => none _ _ (.here refers)
      by_cases dollar : c = '$'
      · subst dollar
        -- up to the next dollar sign nothing is replaced, and what comes then makes no reference here
        obtain ⟨block, tail, moreTail, rfl, rfl, plain, tailReplaced, ends⟩ := exists_ends apart later
        cases second with
        | reference referred following =>
          obtain ⟨front, back, rfl, rfl, there⟩ := referred.of_block ends.symm
          have plainBack : '$' ∉ back := fun member => plain (List.mem_append_right front member)
          have backReplaced : Replaced [(name, own)] (back ++ tail) (back ++ moreTail) :=
            (replaced_append_iff plainBack).mpr ⟨moreTail, rfl, tailReplaced⟩
          have split : '$' :: (front ++ back ++ tail) = ('$' :: front) ++ (back ++ tail) := by simp
          exact .reference (.later notHere there) (shorter split (by simp) backReplaced following)
        | copied noneLater following =>
          refine .copied ?_ (shorter (List.singleton_append).symm (by simp) later following)
          intro text after referred
          obtain ⟨refers, -⟩ | ⟨-, referred⟩ := referred_cons_iff.mp referred
          · exact notHere after refers
          · obtain ⟨_, _, -, -, there⟩ := referred.of_block ends
            exact noneLater _ _ there
      · obtain ⟨last, rfl, following⟩ := (replaced_cons_iff dollar).mp second
        refine (replaced_cons_iff dollar).mpr ⟨last, rfl, ?_⟩
        exact shorter (List.singleton_append).symm (by simp) later following

theorem prefix_of_between {block tail : List Char} (plain : '$' ∉ block)
    (same : block ++ tail = text ++ '$' :: after) : block <+: text := by
  rcases List.append_eq_append_iff.mp same with ⟨more, longText, -⟩ | ⟨more, longBlock, rest⟩
  · exact ⟨more, longText.symm⟩
  · cases more with
    | nil => exact ⟨[], by simpa using longBlock⟩
    | cons c more =>
      obtain rfl := (List.cons.inj rest).1
      rw [longBlock] at plain
      simp at plain

theorem Apart.cons_block {block tail : List Char} (plain : '$' ∉ block)
    (ends : tail = [] ∨ ∀ name ∈ names, ¬ block <+: name) (apart : Apart names tail) :
    Apart names ('$' :: (block ++ tail)) := by
  intro before text after shape textPlain
  cases before with
  | nil =>
    have same : block ++ tail = text ++ '$' :: after := (List.cons.inj shape).2
    rcases ends with rfl | longer
    · rw [List.append_nil] at same
      rw [same] at plain
      simp at plain
    · intro name member starts
      exact longer name member ((prefix_of_between plain same).trans starts)
  | cons first before => exact apart.of_append plain before text after (List.cons.inj shape).2 textPlain

theorem Apart.replaced {own : List Char} (plainText : '$' ∉ own) (apart : Apart names line)
    (replaced : Replaced [(name, own)] line middle) : Apart names middle := by
  induction replaced with
  | done => exact apart
  | reference referred _ ih =>
    obtain ⟨refers, rfl⟩ := referred_single_iff.mp referred
    have split := refers.1
    rw [← List.cons_append] at split
    rw [split] at apart
    exact (ih apart.append).of_append plainText
  | @copied c rest more none later ih =>
    have laterApart : Apart names more := ih apart.tail
    by_cases dollar : c = '$'
    · subst dollar
      obtain ⟨block, tail, moreTail, rfl, rfl, plain, -, ends⟩ := exists_ends apart later
      exact laterApart.append.cons_block plain (ends.imp_left And.right)
    · exact laterApart.of_append (show '$' ∉ [c] by simpa using Ne.symm dollar)

/-- If no text has a dollar sign and the line keeps the names apart, replacing the references by
one name after the other is to replace all of them at once. -/
theorem replaced_of_successively (plain : ∀ entry ∈ meanings, '$' ∉ entry.2)
    (apart : Apart (meanings.map Prod.fst) line) (successively : Successively meanings line result) :
    Replaced meanings line result := by
  induction successively with
  | done => exact replaced_self _
  | @next entry rest line middle result replaced _ ih =>
    obtain ⟨here, later⟩ := List.forall_mem_cons.mp plain
    have restApart : Apart (rest.map Prod.fst) line := apart.subset (List.subset_cons_self _ _)
    exact replaced_cons_of_replaced here restApart replaced (ih later (restApart.replaced here replaced))

/-! ### References to one name -/

/-- Somewhere in the line there is a reference to the name. -/
def Used (name line : List Char) : Prop := ∃ before here after, line = before ++ here ∧ Refers name here after

/-- Copied pieces of text, and the places of a text between them. -/
abbrev Pieces := List (Option (List Char))

def Pieces.filled (pieces : Pieces) (text : List Char) : List Char := pieces.flatMap fun piece => piece.getD text

theorem filled_append (pieces more : Pieces) (text : List Char) :
    Pieces.filled (pieces ++ more) text = pieces.filled text ++ more.filled text := List.flatMap_append

theorem filled_copied (copied : List (List Char)) (text : List Char) :
    Pieces.filled (copied.map some) text = copied.flatten := by
  rw [Pieces.filled, List.flatMap_map, List.flatMap_def]
  exact congrArg _ (List.map_id copied)

theorem filled_flatMap (lines : List (List Char)) (pieces : List Char → Pieces) (text : List Char) :
    Pieces.filled (lines.flatMap pieces) text = (lines.map fun line => (pieces line).filled text).flatten := by
  rw [Pieces.filled, List.flatMap_assoc, List.flatMap_def]
  rfl

/-- The places of a name in a line do not depend on the text in place of its references. -/
theorem exists_pieces (name line : List Char) :
    ∃ pieces : Pieces, (Used name line → none ∈ pieces) ∧
      ∀ text, Replaced [(name, text)] line (pieces.filled text) := by
  induction size : line.length using Nat.strongRecOn generalizing line with
  | ind bound ih =>
    cases line with
    | nil =>
      refine ⟨[], ?_, fun text => .done⟩
      rintro ⟨before, here, after, shape, refers, -⟩
      rw [refers] at shape
      simp at shape
    | cons c rest =>
      by_cases refers : ∃ after, Refers name (c :: rest) after
      · obtain ⟨after, refers⟩ := refers
        have length : rest.length = name.length + after.length := by
          rw [(List.cons.inj refers.1).2, List.length_append]
        have shorter : after.length < bound := by
          rw [← size, List.length_cons]
          omega
        obtain ⟨pieces, -, replaced⟩ := ih after.length shorter after rfl
        exact ⟨none :: pieces, fun _ => List.mem_cons_self, fun text => .reference (.here refers) (replaced text)⟩
      · obtain ⟨pieces, used, replaced⟩ := ih rest.length (by rw [← size, List.length_cons]; omega) rest rfl
        refine ⟨some [c] :: pieces, ?_, fun text => .copied ?_ (replaced text)⟩
        · rintro ⟨before, here, after, shape, there⟩
          cases before with
          | nil =>
            rw [List.nil_append] at shape
            exact absurd ⟨after, shape ▸ there⟩ refers
          | cons first before =>
            exact List.mem_cons_of_mem _ (used ⟨before, here, after, (List.cons.inj shape).2, there⟩)
        · intro other after referred
          exact refers ⟨after, (referred_single_iff.mp referred).1⟩

theorem length_filled (pieces : Pieces) :
    ∃ fixed, ∀ text, (pieces.filled text).length = fixed + pieces.count none * text.length := by
  induction pieces with
  | nil => exact ⟨0, fun text => by simp [Pieces.filled]⟩
  | cons piece pieces ih =>
    obtain ⟨fixed, length⟩ := ih
    simp only [Pieces.filled] at length
    cases piece with
    | none =>
      refine ⟨fixed, fun text => ?_⟩
      simp only [Pieces.filled, List.flatMap_cons, List.length_append, length, Option.getD_none, List.count_cons_self]
      ring
    | some piece =>
      refine ⟨piece.length + fixed, fun text => ?_⟩
      simp [Pieces.filled, length, Nat.add_assoc]

theorem filled_injective {pieces : Pieces} (somewhere : none ∈ pieces) : Function.Injective pieces.filled := by
  intro text other same
  obtain ⟨fixed, length⟩ := length_filled pieces
  have positive : 0 < pieces.count none := List.count_pos_iff.mpr somewhere
  have lengths : text.length = other.length := by
    have total := congrArg List.length same
    rw [length, length] at total
    exact Nat.eq_of_mul_eq_mul_left positive (Nat.add_left_cancel total)
  clear length positive
  induction pieces with
  | nil => cases somewhere
  | cons piece pieces ih =>
    cases piece with
    | none => exact (List.append_inj same lengths).1
    | some piece =>
      have later : none ∈ pieces := by simpa using somewhere
      exact ih later (List.append_cancel_left same)

end Dockerfile

end TaskPlan
