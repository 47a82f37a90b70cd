import TaskPlan.Proofs.Pattern.Lawful
import TaskPlan.Proofs.Pattern.Reading
import TaskPlan.Proofs.Pattern.Spans

/-!
# The laws of the engine that runs

The reader of expressions does in a group what it does on the text alone, as far as it stays in
the group (`parallel_readBody`). So where it stops at a closing bracket, what it has read is an
expression (`parse?_of_stopped`), and a text without comments is read between anchors as it is
alone (`readFrom?_anchored`).
-/

namespace TaskPlan

namespace Regex

/-- The part matches from one place of the text to another. -/
def Part.Spans (part : Part) (text : List Char) (first last : Nat) : Prop :=
  first ≤ text.length ∧ part.regex.Spans text first last

/-- The part between the anchors of a text. -/
def Part.anchored (part : Part) : Part :=
  { regex := .seq [.look .textStart Text.isWord, part.regex, .look .textEnd Text.isWord]
    nesting := part.nesting + 2 }

variable {pattern : String} {part whole : Part} {r : Reader}

theorem parse?_eq_some_iff : parse? pattern = some part ↔
    ∃ r, readFrom? pattern = some (part, r) ∧ r.rest = [] := by
  rw [parse?, Option.bind_eq_some_iff]
  constructor
  · rintro ⟨⟨part', r⟩, read, ended⟩
    dsimp only at ended
    split at ended
    · obtain ⟨⟩ := ended
      exact ⟨r, read, List.isEmpty_iff.mp ‹_›⟩
    · cases ended
  · rintro ⟨r, read, ended⟩
    exact ⟨(part, r), read, by simp [ended]⟩

/-! ### Groups -/

/-- What is read behind the text between the anchors. -/
def readClosing (fuel : Nat) (inner : Part) : Read Part := do
  expect [')']
  modify fun r => { r with flags := {} }
  readBody fuel [] [{ regex := inner.regex, nesting := inner.nesting + 1 }, lookPart {} .textStart]

/-- The opening anchor and bracket leave the reader as it was at the start. -/
theorem readBody_opened (fuel : Nat) (text : List Char) :
    (readBody (fuel + 3) [] []).run ⟨'^' :: '(' :: '?' :: ':' :: text, {}, []⟩ =
      ((readBody (fuel + 1) [] []).run ⟨text, {}, []⟩).bind fun inner =>
        (readClosing (fuel + 1) inner.1).run inner.2 :=
  rfl

theorem readFrom?_opened (text : String) : readFrom? ("^(?:" ++ text) =
    ((readBody (text.toList.length + 3) [] []).run ⟨text.toList, {}, []⟩).bind fun inner =>
      (readClosing (text.toList.length + 3) inner.1).run inner.2 := by
  have chars : ("^(?:" ++ text).toList = '^' :: '(' :: '?' :: ':' :: text.toList := by simp
  rw [readFrom?, chars]
  exact readBody_opened (text.toList.length + 2) text.toList

theorem readClosing_run_eq_some {fuel : Nat} {result : Part × Reader}
    (read : (readClosing fuel part).run r = some result) : ∃ more, r.rest = ')' :: more := by
  rw [readClosing, StateT.run_bind, expect_run] at read
  obtain ⟨_, closed, -⟩ := Option.bind_eq_some_iff.mp read
  obtain ⟨more, left, -⟩ := Option.map_eq_some_iff.mp closed
  exact ⟨more, Text.dropHead?_eq_some.mp left⟩

/-- Where the reader stops at a bracket, it has read an expression. -/
theorem parse?_of_stopped {fuel : Nat} {content more : List Char} (enough : content.length < fuel)
    (read : (readBody fuel [] []).run ⟨content ++ ')' :: more, {}, []⟩ = some (part, r)) (stopped : r.rest = ')' :: more) :
    parse? (String.ofList content) = some part := by
  have follows := (parallel_readBody more (content.length + 1) fuel [] []).follows ⟨content, {}, []⟩
    (Reader.at_false _) (lt_min (Nat.lt_succ_self _) enough)
  change Follows more 1 never content _ ((readBody fuel [] []).run ⟨content ++ ')' :: more, {}, []⟩) at follows
  generalize alone : (readBody (content.length + 1) [] []).run ⟨content, {}, []⟩ = x at follows
  rw [parse?_eq_some_iff, readFrom?, String.toList_ofList, alone]
  generalize (readBody fuel [] []).run ⟨content ++ ')' :: more, {}, []⟩ = y at read follows
  cases follows with
  | same =>
    obtain ⟨⟨part', r'⟩, rfl, closed⟩ := Option.map_eq_some_iff.mp read
    obtain ⟨rfl, rfl⟩ := Prod.mk.inj closed
    exact ⟨r', rfl, by simpa [Reader.closed] using stopped⟩
  | apart _ beyond =>
    have short := (beyond part r read).length
    rw [stopped] at short
    exact absurd short (Nat.not_succ_le_self _)
  | edge isEdge => exact isEdge.elim

theorem exists_content_of_opened {text : String} (read : parse? ("^(?:" ++ text) = some whole) :
    ∃ content more, text = content ++ ")" ++ more ∧ (parse? content).isSome = true := by
  obtain ⟨_, opened, -⟩ := parse?_eq_some_iff.mp read
  rw [readFrom?_opened] at opened
  obtain ⟨⟨inner, r⟩, inside, closed⟩ := Option.bind_eq_some_iff.mp opened
  obtain ⟨more, stopped⟩ := readClosing_run_eq_some closed
  obtain ⟨⟨content, chars⟩, -⟩ := ((parallel_readBody [] _ 0 [] []).takes _ inner r (Reader.at_false _) inside).1
  rw [stopped] at chars
  change content ++ ')' :: more = text.toList at chars
  rw [← chars] at inside
  have valid := parse?_of_stopped (by simp only [List.length_append]; omega) inside stopped
  refine ⟨String.ofList content, String.ofList more, ?_, by rw [valid]; rfl⟩
  rw [← String.toList_inj, ← chars]
  simp

/-! ### Anchors -/

theorem readClosing_closing (fuel : Nat) (part : Part) (flags : Flags) (names : List (List Char)) :
    (readClosing (fuel + 2) part).run ⟨[')', '$'], flags, names⟩ = some (part.anchored, ⟨[], {}, names⟩) := by
  have items : sequence [lookPart {} .textEnd, { regex := part.regex, nesting := part.nesting + 1 },
      lookPart {} .textStart] = part.anchored := by
    simp [sequence, lookPart, Part.anchored]
  rw [← items]
  rfl

theorem readClosing_beyond (fuel : Nat) (part : Part) (beyond : Beyond ['$'] 1 r.rest) :
    (readClosing fuel part).run r = none := by
  rw [← Option.not_isSome_iff_eq_none, Option.isSome_iff_exists]
  rintro ⟨result, read⟩
  obtain ⟨more, bracket⟩ := readClosing_run_eq_some read
  have short := beyond.length
  obtain ⟨gap, whole⟩ := beyond.suffix
  rw [bracket] at short whole
  rcases gap with _ | ⟨_, _ | ⟨_, _⟩⟩
  · obtain ⟨-, rfl⟩ := List.cons.inj whole
    exact absurd short (Nat.not_succ_le_self _)
  · simp at whole
  · simp at whole

/-- An expression is read between the anchors as it is alone, or ends in a comment and is nothing
there. -/
theorem parse?_anchored (alone : parse? pattern = some part) :
    parse? (anchored pattern) = some part.anchored ∨ parse? (anchored pattern) = none ∧ '#' ∈ pattern.toList := by
  obtain ⟨r, alone, ended⟩ := parse?_eq_some_iff.mp alone
  have between := readFrom?_opened (pattern ++ ")$")
  rw [← String.append_assoc, ← anchored] at between
  have text : (pattern ++ ")$").toList = pattern.toList ++ ')' :: ['$'] := by simp
  have follows := (parallel_readBody ['$'] (pattern.toList.length + 1) ((pattern ++ ")$").toList.length + 3) [] []).follows
    ⟨pattern.toList, {}, []⟩ (Reader.at_false _) (by rw [text]; simp)
  change Follows ['$'] 1 never pattern.toList (readFrom? pattern) ((readBody _ [] []).run ⟨pattern.toList ++ ')' :: ['$'], {}, []⟩)
    at follows
  rw [alone, ← text] at follows
  generalize (readBody _ [] []).run (⟨(pattern ++ ")$").toList, {}, []⟩ : Reader) = inside at follows between
  cases follows with
  | same =>
    have closed : r.closed ['$'] = ⟨[')', '$'], r.flags, r.names⟩ := by simp [Reader.closed, ended]
    refine .inl (parse?_eq_some_iff.mpr ⟨⟨[], {}, r.names⟩, ?_, rfl⟩)
    rw [between]
    simp only [Option.map_some, Option.bind_some, closed]
    exact readClosing_closing _ part r.flags r.names
  | apart ended beyond =>
    refine .inr ⟨?_, (ended part r rfl).comment⟩
    have nothing : readFrom? (anchored pattern) = none := by
      rw [between, Option.bind_eq_none_iff]
      exact fun result read => readClosing_beyond _ result.1 (beyond result.1 result.2 read)
    rw [parse?, nothing, Option.bind_none]

theorem spans_anchored {text : List Char} {first last : Nat} :
    part.anchored.Spans text first last ↔ first = 0 ∧ part.Spans text first last ∧ last = text.length := by
  constructor
  · rintro ⟨inside, _, ⟨rfl, -, start⟩, _, spans, _, ⟨rfl, inside', finish⟩, rfl⟩
    exact ⟨(charBefore_isNone inside).mp start, ⟨inside, spans⟩,
      le_antisymm inside' (by simpa [Look.holds] using finish)⟩
  · rintro ⟨rfl, ⟨inside, spans⟩, rfl⟩
    refine ⟨inside, 0, ⟨rfl, inside, rfl⟩, text.length, spans, text.length, ⟨rfl, le_rfl, ?_⟩, rfl⟩
    simp [Look.holds]

theorem standard_lawful : Engine.Lawful Part.Spans where
  search part text := (matchesIn_iff part.regex text).trans Iff.rfl
  group := exists_content_of_opened
  anchors := by
    intro content inner whole alone between text first last
    obtain read | ⟨none, -⟩ := parse?_anchored alone
    · obtain ⟨⟩ := read.symm.trans between
      exact spans_anchored
    · cases none.symm.trans between
  comment := by
    intro content inner alone between
    obtain read | ⟨-, hash⟩ := parse?_anchored alone
    · cases read.symm.trans between
    · exact hash

/-- A part spans a whole text if it is found there between anchors. -/
theorem matchesIn_anchored (part : Part) (text : String) :
    part.anchored.regex.matchesIn text = true ↔ part.Spans text.toList 0 text.toList.length := by
  have search : part.anchored.regex.matchesIn text = true ↔
      ∃ first last, part.anchored.Spans text.toList first last := standard_lawful.search part.anchored text
  simp only [search, spans_anchored]
  constructor
  · rintro ⟨_, _, rfl, spans, rfl⟩
    exact spans
  · exact fun spans => ⟨0, _, rfl, spans, rfl⟩

end Regex

end TaskPlan
