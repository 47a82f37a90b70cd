import TaskPlan.KeyedBy.Evaluate
import TaskPlan.Proofs.Pattern.Standard

/-!
# Keys between anchors

A key is put between anchors as it stands. Unless it closes a bracket which it does not open, it
matches a text exactly if it is an expression by itself that matches all of the text, and the
engine takes it between the anchors (`keyMatches_whole`). A key that closes one bracket more is no
expression by itself, and may still match a part of a text (`keyMatches_whole_not_beyond`).
-/

namespace TaskPlan

namespace KeyedBy

open Regex Engine

section Engine

variable [Engine]

theorem choose_cases (alternatives : Fields) (text : String) :
    choose alternatives (some text) = .key text ∨ choose alternatives (some text) = .key defaultKey ∨
      choose alternatives (some text) = .nothing ∨
      (∃ key ∈ patternKeys alternatives text, choose alternatives (some text) = .key key) ∨
      choose alternatives (some text) = .ambiguous (patternKeys alternatives text) := by
  by_cases exact : alternatives.contains text = true
  · exact .inl (if_pos exact)
  rw [choose, if_neg exact]
  rcases patternKeys alternatives text with _ | ⟨key, _ | ⟨second, rest⟩⟩
  · by_cases fallback : alternatives.contains defaultKey = true
    · exact .inr (.inl (if_pos fallback))
    · exact .inr (.inr (.inl (if_neg fallback)))
  · exact .inr (.inr (.inr (.inl ⟨key, List.mem_singleton_self key, rfl⟩)))
  · exact .inr (.inr (.inr (.inr rfl)))

/-- A key that closes no bracket beyond those it opens counts as a match exactly if it is an
expression by itself that matches the whole text, and one for the engine between the anchors. It
is an expression there unless it has a comment, and the engine takes it within its limits. So
among such keys no alternative is chosen or reported for a match of a part only. -/
theorem keyMatches_whole {spans : Meaning} (lawful : Lawful spans) (key text : String) :
    (¬Overclosed key →
      (keyMatches key text = true ↔ MatchesWhole spans key text ∧ (compile? (anchored key)).isSome = true)) ∧
    (∀ inner, read? key = some inner → '#' ∉ key.toList →
      ∃ whole, read? (anchored key) = some whole ∧
        (accepts whole = true → (keyMatches key text = true ↔ spans inner text.toList 0 text.toList.length))) ∧
    ∀ alternatives : Fields, (∀ key ∈ alternatives.keys, ¬Overclosed key) →
      (∀ chosen, choose alternatives (some text) = .key chosen →
        chosen = text ∨ chosen = defaultKey ∨ MatchesWhole spans chosen text) ∧
      ∀ keys, choose alternatives (some text) = .ambiguous keys → ∀ key ∈ keys, MatchesWhole spans key text := by
  refine ⟨fun balanced => isMatch_anchored lawful balanced text, ?_, ?_⟩
  · intro inner alone plain
    obtain ⟨whole, between⟩ := read?_anchored lawful alone plain
    refine ⟨whole, between, fun accepted => ?_⟩
    have compiled : compile? (anchored key) = some whole := by
      rw [compile?, between]
      simp [accepted]
    have balanced : ¬Overclosed key := fun overclosed => by cases overclosed.1.symm.trans alone
    rw [keyMatches, isMatch_anchored lawful balanced, compiled]
    simp [MatchesWhole, alone]
  · intro alternatives balanced
    have whole {key : String} (member : key ∈ patternKeys alternatives text) : MatchesWhole spans key text := by
      obtain ⟨listed, matched⟩ := List.mem_filter.mp member
      exact ((isMatch_anchored lawful (balanced key listed) text).mp (Bool.and_eq_true_iff.mp matched).2).1
    constructor
    · intro chosen done
      obtain made | made | made | ⟨key, member, made⟩ | made := choose_cases alternatives text
      · obtain ⟨⟩ := made.symm.trans done
        exact .inl rfl
      · obtain ⟨⟩ := made.symm.trans done
        exact .inr (.inl rfl)
      · cases made.symm.trans done
      · obtain ⟨⟩ := made.symm.trans done
        exact .inr (.inr (whole member))
      · cases made.symm.trans done
    · intro keys done key member
      obtain made | made | made | ⟨_, -, made⟩ | made := choose_cases alternatives text
      iterate 4 cases made.symm.trans done
      obtain ⟨⟩ := made.symm.trans done
      exact whole member

end Engine

theorem keyMatches_whole_linux :
    (¬Overclosed "linux.*" ∧ keyMatches "linux.*" "linux64" = true ∧ MatchesWhole Part.Spans "linux.*" "linux64") ∧
    choose [("linux.*", .str "1"), (".*64", .str "2")] (some "linux64") = .ambiguous ["linux.*", ".*64"] ∧
      MatchesWhole Part.Spans ".*64" "linux64" := by
  have expression (key : String) (valid : (Engine.read? key).isSome = true) : ¬Overclosed key := by
    rintro ⟨none, -⟩
    rw [none] at valid
    cases valid
  have linux := expression "linux.*" (by cbv)
  have wide := expression ".*64" (by cbv)
  have matched : keyMatches "linux.*" "linux64" = true := by cbv
  have several : choose [("linux.*", .str "1"), (".*64", .str "2")] (some "linux64") =
      .ambiguous ["linux.*", ".*64"] := by cbv
  obtain ⟨counted, -, among⟩ := keyMatches_whole standard_lawful "linux.*" "linux64"
  obtain ⟨-, reported⟩ := among [("linux.*", .str "1"), (".*64", .str "2")] (by simp [Fields.keys, linux, wide])
  exact ⟨⟨linux, matched, ((counted linux).mp matched).1⟩, several, reported _ several ".*64" (by simp)⟩

/-- A bracket that the key does not open ends the one between the anchors, and what is left of
the key is anchored on one side only; a comment at the end of the key goes on through the
closing anchor. -/
theorem keyMatches_whole_not_beyond :
    (Engine.read? "linux)|(?:mac" = none ∧ keyMatches "linux)|(?:mac" "linux64" = true ∧
      choose [("linux)|(?:mac", .str "1"), ("default", .str "2")] (some "linux64") = .key "linux)|(?:mac") ∧
    MatchesWhole Part.Spans "(?x)linux #64" "linux" ∧ keyMatches "(?x)linux #64" "linux" = false := by
  refine ⟨⟨?_, ?_, ?_⟩, ?_, ?_⟩
  · rw [← Option.isNone_iff_eq_none]
    cbv
  · cbv
  · cbv
  · have found : ((parse? "(?x)linux #64").any fun part => part.anchored.regex.matchesIn "linux") = true := by cbv
    obtain ⟨part, alone, matched⟩ := (Option.any_eq_true _ _).mp found
    exact ⟨part, alone, (matchesIn_anchored part "linux").mp matched⟩
  · cbv

end KeyedBy

end TaskPlan
