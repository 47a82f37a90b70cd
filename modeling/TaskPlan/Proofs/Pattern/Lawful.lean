import Mathlib
import TaskPlan.Pattern.Regex.Engine

/-!
# Laws of expressions

What the documentation of a library of regular expressions says of searches, groups and anchors
(`Engine.Lawful`), and what follows for a text that is put between anchors as it stands. The text
is an expression by itself, or closes a bracket which it does not open (`read?_of_anchored`). If it
is one, it matches between the anchors what it matches of whole texts (`isMatch_anchored`).
-/

namespace TaskPlan

namespace Regex

namespace Engine

variable [Engine]

/-- What expressions match: a part of a text, by the places before its first and behind its last
character. -/
abbrev Meaning : Type := Expression → List Char → (first last : Nat) → Prop

/-- The documented laws. Whether a text is an expression does not depend on the limits of an
engine. -/
structure Lawful (spans : Meaning) : Prop where
  /-- a search finds a match of any part of the text -/
  search (found : Expression) (text : String) :
    finds found text = true ↔ ∃ first last, spans found text.toList first last
  /-- a group is closed again, behind an expression -/
  group {text : String} {whole : Expression} : read? ("^(?:" ++ text) = some whole →
    ∃ content more, text = content ++ ")" ++ more ∧ (read? content).isSome = true
  /-- `^` stands for the start of a text, a group for what it holds, and `$` for the end -/
  anchors {content : String} {inner whole : Expression} : read? content = some inner →
    read? (anchored content) = some whole → ∀ text first last,
      spans whole text first last ↔ first = 0 ∧ spans inner text first last ∧ last = text.length
  /-- only a comment goes on through the bracket behind an expression -/
  comment {content : String} {inner : Expression} : read? content = some inner →
    read? (anchored content) = none → '#' ∈ content.toList

/-- The text is no expression by itself, and closes a bracket which it does not open. -/
def Overclosed (pattern : String) : Prop :=
  read? pattern = none ∧ ∃ content more, pattern = content ++ ")" ++ more ∧ (read? content).isSome = true

/-- The pattern is an expression by itself that matches all of the text. -/
def MatchesWhole (spans : Meaning) (pattern text : String) : Prop :=
  ∃ found, read? pattern = some found ∧ spans found text.toList 0 text.toList.length

variable {spans : Meaning} {pattern : String} {inner whole : Expression}

theorem isMatch_iff (lawful : Lawful spans) {text : String} : isMatch pattern text = true ↔
    ∃ found, compile? pattern = some found ∧ ∃ first last, spans found text.toList first last := by
  simp only [isMatch, Option.any_eq_true, lawful.search]

/-- The first bracket that closes the group between the anchors is the one behind the text, or one
of the text. -/
theorem read?_of_anchored (lawful : Lawful spans) (between : read? (anchored pattern) = some whole)
    (balanced : ¬Overclosed pattern) : ∃ inner, read? pattern = some inner := by
  rw [← Option.ne_none_iff_exists']
  intro invalid
  rw [anchored, String.append_assoc] at between
  obtain ⟨content, more, text, valid⟩ := lawful.group between
  have chars : pattern.toList ++ [')', '$'] = content.toList ++ ')' :: more.toList := by
    simpa using congrArg String.toList text
  have other : content.toList ≠ pattern.toList := by
    intro same
    rw [String.toList_inj.mp same, invalid] at valid
    cases valid
  obtain ⟨gap, long, tail⟩ | ⟨gap, short, tail⟩ := List.append_eq_append_iff.mp chars
  · rcases gap with _ | ⟨_, _ | ⟨_, _⟩⟩
    · exact other (by simpa using long)
    · simp at tail
    · simp at tail
  · rcases gap with _ | ⟨bracket, gap⟩
    · exact other (by simpa using short.symm)
    · obtain ⟨rfl, -⟩ := List.cons.inj tail
      refine balanced ⟨invalid, content, String.ofList gap, ?_, valid⟩
      rw [← String.toList_inj, short]
      simp

/-- A text that closes no bracket beyond those it opens matches between anchors exactly if it is an
expression by itself that matches the whole text, and one for the engine between the anchors. -/
theorem isMatch_anchored (lawful : Lawful spans) (balanced : ¬Overclosed pattern) (text : String) :
    isMatch (anchored pattern) text = true ↔
      MatchesWhole spans pattern text ∧ (compile? (anchored pattern)).isSome = true := by
  rw [isMatch_iff lawful, Option.isSome_iff_exists]
  constructor
  · rintro ⟨whole, compiled, first, last, matched⟩
    obtain ⟨between, -⟩ := Option.filter_eq_some_iff.mp compiled
    obtain ⟨inner, alone⟩ := read?_of_anchored lawful between balanced
    obtain ⟨rfl, matched, rfl⟩ := (lawful.anchors alone between _ _ _).mp matched
    exact ⟨⟨inner, alone, matched⟩, whole, compiled⟩
  · rintro ⟨⟨inner, alone, matched⟩, whole, compiled⟩
    obtain ⟨between, -⟩ := Option.filter_eq_some_iff.mp compiled
    exact ⟨whole, compiled, 0, _, (lawful.anchors alone between _ _ _).mpr ⟨rfl, matched, rfl⟩⟩

/-- Without comments an expression stays one between anchors. -/
theorem read?_anchored (lawful : Lawful spans) (alone : read? pattern = some inner) (plain : '#' ∉ pattern.toList) :
    ∃ whole, read? (anchored pattern) = some whole := by
  rw [← Option.ne_none_iff_exists']
  exact fun none => plain (lawful.comment alone none)

end Engine

end Regex

end TaskPlan
