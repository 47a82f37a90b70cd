import TaskPlan.Context.Dockerfile
import TaskPlan.Proofs.Text.Runs

/-!
# Templates of arguments

The value of an argument is a template, in which dollar signs stand before groups of a match. The
text that it is filled to is given by rules (`Fills`), and it is the one that is computed
(`fills_iff`). So a value stands for itself as long as no dollar sign in it comes before a group
or another dollar sign (`fill_of_literal`).
-/

namespace TaskPlan

namespace Dockerfile

variable {whole text rest after group : List Char}

/-- After a dollar sign a group is named in braces, or by all the characters of names there. -/
def Names (rest group after : List Char) : Prop :=
  rest = '\x7b' :: (group ++ '\x7d' :: after) ∧ '\x7d' ∉ group ∨
    rest = group ++ after ∧ group ≠ [] ∧ (∀ c ∈ group, isGroupChar c = true) ∧ Text.Stops isGroupChar after

/-- What a template is filled to for a match. -/
inductive Fills (whole : List Char) : (template text : List Char) → Prop where
  | done : Fills whole [] []
  | char {c : Char} {rest text : List Char} (plain : c ≠ '$') (later : Fills whole rest text) :
      Fills whole (c :: rest) (c :: text)
  | dollar {rest text : List Char} (later : Fills whole rest text) : Fills whole ('$' :: '$' :: rest) ('$' :: text)
  | group {rest group after text : List Char} (names : Names rest group after) (later : Fills whole after text) :
      Fills whole ('$' :: rest) ((if isWholeMatch group then whole else []) ++ text)
  | stray {rest text : List Char} (single : rest.head? ≠ some '$')
      (none : ∀ group after, ¬ Names rest group after) (later : Fills whole rest text) :
      Fills whole ('$' :: rest) ('$' :: text)

theorem Names.group?_eq (names : Names rest group after) :
    ∃ reference, rest = reference ++ after ∧ group? rest = some (group, reference.length) ∧
      rest.head? ≠ some '$' := by
  rcases names with ⟨rfl, unclosed⟩ | ⟨rfl, some, inside, ends⟩
  · have run : (group ++ '\x7d' :: after).takeWhile (· != '\x7d') = group := by
      refine (Text.run_append (fun c member => ?_) (Text.stops_cons.mpr rfl)).1
      rw [bne_iff_ne]
      rintro rfl
      exact unclosed member
    refine ⟨'\x7b' :: (group ++ ['\x7d']), by simp, ?_, by simp⟩
    simp [group?, run]
  · obtain ⟨c, group, rfl⟩ := List.exists_cons_of_ne_nil some
    have first := inside c List.mem_cons_self
    have run := (Text.run_append inside ends).1
    refine ⟨c :: group, rfl, ?_, ?_⟩
    · rw [group?]
      · simp only [run, List.isEmpty_cons, Bool.false_eq_true, if_false]
      · intro more shape
        cases shape
        cases first
    · intro dollar
      cases dollar
      cases first

theorem exists_names {length : Nat} (found : group? rest = some (group, length)) :
    ∃ after, Names rest group after := by
  unfold group? at found
  split at found
  · rename_i more
    dsimp only at found
    split at found
    · rename_i shorter
      cases found
      have parts := List.takeWhile_append_dropWhile (p := (· != '\x7d')) (l := more)
      have stops := Text.stops_dropWhile (· != '\x7d') more
      cases tail : more.dropWhile (· != '\x7d') with
      | nil =>
        rw [tail, List.append_nil] at parts
        rw [parts] at shorter
        exact absurd shorter (lt_irrefl _)
      | cons c after =>
        rw [tail] at parts stops
        obtain rfl : c = '\x7d' := by simpa using Text.stops_cons.mp stops
        refine ⟨after, .inl ⟨by rw [parts], fun member => ?_⟩⟩
        simpa using List.mem_takeWhile_imp member
    · cases found
  · dsimp only at found
    split at found
    · cases found
    · rename_i some
      cases found
      refine ⟨rest.dropWhile isGroupChar, .inr ⟨List.takeWhile_append_dropWhile.symm, ?_,
        fun c => List.mem_takeWhile_imp, Text.stops_dropWhile _ _⟩⟩
      rwa [List.isEmpty_iff] at some

theorem fill_append (whole skipped rest : List Char) :
    fill whole skipped.length (skipped ++ rest) = fill whole 0 rest := by
  induction skipped with
  | nil => rfl
  | cons c skipped ih => exact ih

theorem Fills.eq_fill {template : List Char} (fills : Fills whole template text) : text = fill whole 0 template := by
  induction fills with
  | done => rfl
  | char plain _ ih => simp [fill, plain, ih]
  | dollar _ ih => simp [fill, ih]
  | group names _ ih =>
    obtain ⟨reference, rfl, found, single⟩ := names.group?_eq
    rw [← beq_eq_false_iff_ne] at single
    simp only [fill, bne_self_eq_false, Bool.false_eq_true, if_false, single, found, fill_append, ih]
  | @stray rest text single none _ ih =>
    have nothing : group? rest = Option.none := by
      refine Option.eq_none_iff_forall_ne_some.mpr fun found same => ?_
      obtain ⟨after, names⟩ := exists_names same
      exact none _ _ names
    simp [fill, single, nothing, ih]

theorem exists_fills (whole template : List Char) : ∃ text, Fills whole template text := by
  induction size : template.length using Nat.strongRecOn generalizing template with
  | ind bound ih =>
    cases template with
    | nil => exact ⟨[], .done⟩
    | cons c rest =>
      rw [List.length_cons] at size
      obtain ⟨text, fills⟩ := ih rest.length (by omega) rest rfl
      by_cases dollar : c = '$'
      · subst dollar
        by_cases single : rest.head? = some '$'
        · obtain ⟨more, rfl⟩ := List.head?_eq_some_iff.mp single
          rw [List.length_cons] at size
          obtain ⟨text, fills⟩ := ih more.length (by omega) more rfl
          exact ⟨_, .dollar fills⟩
        · by_cases names : ∃ group after, Names rest group after
          · obtain ⟨group, after, names⟩ := names
            obtain ⟨reference, shape, -, -⟩ := names.group?_eq
            have length := congrArg List.length shape
            rw [List.length_append] at length
            obtain ⟨text, fills⟩ := ih after.length (by omega) after rfl
            exact ⟨_, .group names fills⟩
          · exact ⟨_, .stray single (fun group after here => names ⟨group, after, here⟩) fills⟩
      · exact ⟨_, .char dollar fills⟩

theorem fills_iff {template : List Char} : Fills whole template text ↔ text = fill whole 0 template := by
  refine ⟨Fills.eq_fill, ?_⟩
  rintro rfl
  obtain ⟨text, fills⟩ := exists_fills whole template
  rwa [← fills.eq_fill]

/-- No dollar sign in the text stands before a group, or before another one. -/
def Literal (text : List Char) : Prop :=
  ∀ before after, text = before ++ '$' :: after →
    ∀ c ∈ after.head?, c ≠ '$' ∧ c ≠ '\x7b' ∧ isGroupChar c = false

theorem literal_of_plain (plain : '$' ∉ text) : Literal text := by
  rintro before after rfl
  simp at plain

theorem Literal.fills (whole : List Char) (literal : Literal text) : Fills whole text text := by
  induction text with
  | nil => exact .done
  | cons c rest ih =>
    have later : Literal rest := by
      intro before after shape
      exact literal (c :: before) after (by rw [shape, List.cons_append])
    by_cases dollar : c = '$'
    · subst dollar
      have ordinary := literal [] rest rfl
      refine .stray (fun again => (ordinary '$' again).1 rfl) (fun group after names => ?_) (ih later)
      rcases names with ⟨rfl, -⟩ | ⟨rfl, some, inside, -⟩
      · exact (ordinary '\x7b' rfl).2.1 rfl
      · obtain ⟨c, group, rfl⟩ := List.exists_cons_of_ne_nil some
        have first := inside c List.mem_cons_self
        rw [(ordinary c rfl).2.2] at first
        cases first
    · exact .char dollar (ih later)

theorem fill_of_literal (whole : List Char) (literal : Literal text) : fill whole 0 text = text :=
  (literal.fills whole).eq_fill.symm

end Dockerfile

end TaskPlan
