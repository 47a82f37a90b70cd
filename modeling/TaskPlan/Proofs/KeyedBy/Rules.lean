import TaskPlan.KeyedBy.Evaluate
import TaskPlan.Proofs.Json.Fields
import TaskPlan.Proofs.Json.Inside

/-!
# Rules for keyed-by values

What a value is evaluated to is told by rules for one level (`Evaluates`): the alternative that
is selected is evaluated in its turn, and a failure names the keys that match or the value for
which there is nothing. The rules tell one outcome for each value, which is what `evaluate`
gives (`evaluates_iff`), and none of them looks at the order of alternatives (`Reordered`).
-/

namespace TaskPlan

namespace KeyedBy

section Engine

variable [Regex.Engine]

variable {setting : Setting} {name : String} {alternatives others : Fields} {sought : Option String}
  {text key : String} {value other next result : Json} {outcome : Result Json}

/-- A mapping that chooses one of its alternatives. -/
def keyedBy (name : String) (alternatives : Fields) : Json := .obj [(marker ++ name, .obj alternatives)]

def IsKeyed (value : Json) : Prop := ∃ name alternatives, value = keyedBy name alternatives

/-- The text of a discriminant, if it has a value. -/
def Setting.textOf? (setting : Setting) (name : String) : Option String :=
  (setting.lookup name).bind discriminantText

/-! ### Rules -/

/-- No key is the text, and none matches it as a pattern. -/
def Unmatched (alternatives : Fields) (sought : Option String) : Prop :=
  ∀ text ∈ sought, text ∉ alternatives.keys ∧ patternKeys alternatives text = []

/-- The alternative that a text selects. -/
inductive Selects (alternatives : Fields) : Option String → Json → Prop where
  | exact {text : String} {next : Json} (found : alternatives.get? text = some next) :
      Selects alternatives (some text) next
  | pattern {text key : String} {next : Json} (inexact : text ∉ alternatives.keys)
      (only : patternKeys alternatives text = [key]) (found : alternatives.get? key = some next) :
      Selects alternatives (some text) next
  | default {sought : Option String} {next : Json} (unmatched : Unmatched alternatives sought)
      (found : alternatives.get? defaultKey = some next) : Selects alternatives sought next

/-- What values are evaluated to, level by level. -/
inductive Evaluates (setting : Setting) : Json → Result Json → Prop where
  | plain {value : Json} (plain : ¬ IsKeyed value) : Evaluates setting value (.ok value)
  | selected {name : String} {alternatives : Fields} {next : Json} {outcome : Result Json}
      (selects : Selects alternatives (setting.textOf? name) next)
      (deeper : Evaluates setting next outcome) :
      Evaluates setting (keyedBy name alternatives) outcome
  | ambiguous {name text : String} {alternatives : Fields} (found : setting.textOf? name = some text)
      (inexact : text ∉ alternatives.keys) (several : 2 ≤ (patternKeys alternatives text).length) :
      Evaluates setting (keyedBy name alternatives)
        (.error (.ambiguousKey setting.field setting.context (patternKeys alternatives text)))
  | unresolved {name : String} {alternatives : Fields}
      (unmatched : Unmatched alternatives (setting.textOf? name)) (noDefault : defaultKey ∉ alternatives.keys) :
      Evaluates setting (keyedBy name alternatives)
        (.error (.unresolvedKey setting.field ((setting.textOf? name).getD ("<no " ++ name ++ ">"))
          setting.context))

/-- There is an alternative that is selected, or several keys match, or nothing applies. -/
theorem selects_or (alternatives : Fields) (sought : Option String) :
    (∃ next, Selects alternatives sought next) ∨
      (∃ text, sought = some text ∧ text ∉ alternatives.keys ∧
        2 ≤ (patternKeys alternatives text).length) ∨
      Unmatched alternatives sought ∧ defaultKey ∉ alternatives.keys := by
  have byDefault (unmatched : Unmatched alternatives sought) :
      (∃ next, Selects alternatives sought next) ∨ defaultKey ∉ alternatives.keys := by
    cases found : alternatives.get? defaultKey with
    | some next => exact .inl ⟨next, .default unmatched found⟩
    | none =>
      refine .inr ?_
      rw [← Fields.contains_iff_mem_keys, Fields.contains, found]
      exact Bool.false_ne_true
  cases sought with
  | none =>
    have unmatched : Unmatched alternatives none := by
      intro text found
      cases found
    exact (byDefault unmatched).imp_right fun noDefault => .inr ⟨unmatched, noDefault⟩
  | some text =>
    by_cases exact : text ∈ alternatives.keys
    · obtain ⟨next, found⟩ := Option.isSome_iff_exists.mp (Fields.contains_iff_mem_keys.mpr exact)
      exact .inl ⟨next, .exact found⟩
    · rcases matching : patternKeys alternatives text with _ | ⟨key, _ | ⟨second, rest⟩⟩
      · have unmatched : Unmatched alternatives (some text) := by
          rintro _ ⟨⟩
          exact ⟨exact, matching⟩
        exact (byDefault unmatched).imp_right fun noDefault => .inr ⟨unmatched, noDefault⟩
      · have listed : key ∈ alternatives.keys :=
          (List.mem_filter.mp (matching ▸ List.mem_singleton_self key)).1
        obtain ⟨next, found⟩ := Option.isSome_iff_exists.mp (Fields.contains_iff_mem_keys.mpr listed)
        exact .inl ⟨next, .pattern exact matching found⟩
      · refine .inr (.inl ⟨text, rfl, exact, ?_⟩)
        rw [matching]
        simp

theorem Selects.mem (selects : Selects alternatives sought next) : ∃ key, (key, next) ∈ alternatives := by
  cases selects with
  | exact found => exact ⟨_, Fields.mem_of_get? found⟩
  | pattern _ _ found => exact ⟨_, Fields.mem_of_get? found⟩
  | default _ found => exact ⟨_, Fields.mem_of_get? found⟩

/-! ### Choices -/

theorem choose_several (inexact : text ∉ alternatives.keys)
    (several : 2 ≤ (patternKeys alternatives text).length) :
    choose alternatives (some text) = .ambiguous (patternKeys alternatives text) := by
  rw [← Fields.contains_iff_mem_keys] at inexact
  rw [choose, if_neg inexact]
  rcases matching : patternKeys alternatives text with _ | ⟨key, _ | ⟨second, rest⟩⟩
  · simp [matching] at several
  · simp [matching] at several
  · rfl

theorem choose_unmatched (unmatched : Unmatched alternatives sought) :
    choose alternatives sought = chooseDefault alternatives := by
  cases sought with
  | none => rfl
  | some text =>
    obtain ⟨inexact, none⟩ := unmatched text rfl
    rw [← Fields.contains_iff_mem_keys] at inexact
    rw [choose, if_neg inexact, none]

theorem choose_selected (selects : Selects alternatives sought next) :
    ∃ key, choose alternatives sought = .key key ∧ alternatives.get? key = some next := by
  cases selects with
  | @exact text _ found =>
    have exact : alternatives.contains text = true := by rw [Fields.contains, found, Option.isSome_some]
    exact ⟨text, if_pos exact, found⟩
  | @pattern text key _ inexact only found =>
    rw [← Fields.contains_iff_mem_keys] at inexact
    refine ⟨key, ?_, found⟩
    rw [choose, if_neg inexact, only]
  | default unmatched found =>
    have here : alternatives.contains defaultKey = true := by rw [Fields.contains, found, Option.isSome_some]
    refine ⟨defaultKey, ?_, found⟩
    rw [choose_unmatched unmatched, chooseDefault, if_pos here]

/-! ### Evaluation -/

theorem evaluate_plain (plain : ¬ IsKeyed value) : evaluate setting value = .ok value := by
  unfold evaluate
  split
  · rename_i key alternatives
    cases marked : Text.after? marker key with
    | none => rfl
    | some name =>
      rw [Text.after?_eq_some] at marked
      exact absurd ⟨name, alternatives, by rw [keyedBy, marked]⟩ plain
  · rfl

theorem evaluate_keyedBy (setting : Setting) (name : String) (alternatives : Fields) :
    evaluate setting (keyedBy name alternatives) =
      match choose alternatives (setting.textOf? name) with
      | .ambiguous keys => .error (.ambiguousKey setting.field setting.context keys)
      | .nothing => .error (setting.unresolved name (setting.textOf? name))
      | .key chosen =>
        evaluateUnder setting (setting.unresolved name (setting.textOf? name)) chosen alternatives := by
  have marked : Text.after? marker (marker ++ name) = some name := Text.after?_eq_some.mpr rfl
  rw [keyedBy, evaluate, marked]
  rfl

theorem evaluateUnder_get? {missing : Error} (found : alternatives.get? key = some next) :
    evaluateUnder setting missing key alternatives = evaluate setting next := by
  induction alternatives with
  | nil => cases found
  | cons entry rest ih =>
    obtain ⟨k, v⟩ := entry
    rw [Fields.get?] at found
    rw [evaluateUnder]
    split at found
    · rename_i same
      cases found
      rw [if_pos same]
    · rename_i different
      rw [if_neg different, ih found]

theorem evaluate_selected (selects : Selects alternatives (setting.textOf? name) next) :
    evaluate setting (keyedBy name alternatives) = evaluate setting next := by
  obtain ⟨key, chosen, found⟩ := choose_selected selects
  rw [evaluate_keyedBy, chosen]
  exact evaluateUnder_get? found

theorem evaluate_ambiguous (found : setting.textOf? name = some text) (inexact : text ∉ alternatives.keys)
    (several : 2 ≤ (patternKeys alternatives text).length) :
    evaluate setting (keyedBy name alternatives) =
      .error (.ambiguousKey setting.field setting.context (patternKeys alternatives text)) := by
  rw [evaluate_keyedBy, found, choose_several inexact several]

theorem evaluate_unresolved (unmatched : Unmatched alternatives (setting.textOf? name))
    (noDefault : defaultKey ∉ alternatives.keys) :
    evaluate setting (keyedBy name alternatives) =
      .error (setting.unresolved name (setting.textOf? name)) := by
  rw [← Fields.contains_iff_mem_keys] at noDefault
  rw [evaluate_keyedBy, choose_unmatched unmatched, chooseDefault, if_neg noDefault]

theorem Evaluates.evaluate_eq (evaluates : Evaluates setting value outcome) :
    evaluate setting value = outcome := by
  induction evaluates with
  | plain plain => exact evaluate_plain plain
  | selected selects _ ih => rw [evaluate_selected selects, ih]
  | ambiguous found inexact several => exact evaluate_ambiguous found inexact several
  | unresolved unmatched noDefault => exact evaluate_unresolved unmatched noDefault

/-- The rules tell an outcome for each value: an alternative is smaller than the value. -/
theorem exists_evaluates (setting : Setting) (value : Json) : ∃ outcome, Evaluates setting value outcome := by
  by_cases keyed : IsKeyed value
  · obtain ⟨name, alternatives, rfl⟩ := keyed
    rcases selects_or alternatives (setting.textOf? name) with
      ⟨next, selects⟩ | ⟨text, found, inexact, several⟩ | ⟨unmatched, noDefault⟩
    · obtain ⟨key, member⟩ := selects.mem
      have smaller : sizeOf next < sizeOf (keyedBy name alternatives) := by
        have inside := List.sizeOf_lt_of_mem member
        simp [keyedBy] at inside ⊢
        omega
      obtain ⟨outcome, deeper⟩ := exists_evaluates setting next
      exact ⟨outcome, .selected selects deeper⟩
    · exact ⟨_, .ambiguous found inexact several⟩
    · exact ⟨_, .unresolved unmatched noDefault⟩
  · exact ⟨_, .plain keyed⟩
termination_by sizeOf value

theorem evaluates_iff : evaluate setting value = outcome ↔ Evaluates setting value outcome := by
  constructor
  · rintro rfl
    obtain ⟨outcome, evaluates⟩ := exists_evaluates setting value
    rwa [evaluates.evaluate_eq]
  · exact Evaluates.evaluate_eq

/-- The result is found in the value, and it chooses nothing any more. -/
theorem Evaluates.resolved (evaluates : Evaluates setting value (.ok result)) :
    result.Inside value ∧ ¬ IsKeyed result := by
  generalize same : Except.ok result = outcome at evaluates
  induction evaluates with
  | plain plain =>
    cases same
    exact ⟨.whole _, plain⟩
  | selected selects _ ih =>
    obtain ⟨inside, plain⟩ := ih same
    obtain ⟨key, member⟩ := selects.mem
    exact ⟨.entry List.mem_cons_self (.entry member inside), plain⟩
  | ambiguous => cases same
  | unresolved => cases same

/-! ### The order of alternatives -/

/-- Values that differ at most in the order in which alternatives are declared, at any level. -/
inductive Reordered : Json → Json → Prop where
  | refl (value : Json) : Reordered value value
  | trans {value middle other : Json} (first : Reordered value middle) (second : Reordered middle other) :
      Reordered value other
  | alternatives {name : String} {alternatives others : Fields} (distinct : alternatives.keys.Nodup)
      (perm : alternatives.Perm others) : Reordered (keyedBy name alternatives) (keyedBy name others)
  | inside {name key : String} {before after : Fields} {value other : Json}
      (deeper : Reordered value other) :
      Reordered (keyedBy name (before ++ (key, value) :: after))
        (keyedBy name (before ++ (key, other) :: after))

/-- The same outcome, but for the order of the keys in a failure. -/
inductive SameOutcome : Result Json → Result Json → Prop where
  | same (outcome : Result Json) : SameOutcome outcome outcome
  | ambiguous {field context : String} {keys others : List String} (perm : keys.Perm others) :
      SameOutcome (.error (.ambiguousKey field context keys)) (.error (.ambiguousKey field context others))

omit [Regex.Engine] in
theorem SameOutcome.trans {first second third : Result Json} (here : SameOutcome first second)
    (there : SameOutcome second third) : SameOutcome first third := by
  cases here with
  | same => exact there
  | ambiguous perm =>
    cases there with
    | same => exact .ambiguous perm
    | ambiguous again => exact .ambiguous (perm.trans again)

section Perm

variable (distinct : alternatives.keys.Nodup) (perm : alternatives.Perm others)
include perm

theorem patternKeys_perm (text : String) :
    (patternKeys alternatives text).Perm (patternKeys others text) := (Fields.keys_perm perm).filter _

theorem Unmatched.of_perm (unmatched : Unmatched alternatives sought) : Unmatched others sought := by
  intro text found
  obtain ⟨inexact, none⟩ := unmatched text found
  have matching := patternKeys_perm perm text
  rw [none] at matching
  exact ⟨(Fields.keys_perm perm).mem_iff.not.mp inexact, matching.nil_eq.symm⟩

include distinct

theorem Selects.of_perm (selects : Selects alternatives sought next) : Selects others sought next := by
  cases selects with
  | exact found => exact .exact ((Fields.get?_perm distinct perm _).symm.trans found)
  | @pattern text key _ inexact only found =>
    have matching := patternKeys_perm perm text
    rw [only] at matching
    exact .pattern ((Fields.keys_perm perm).mem_iff.not.mp inexact) (List.singleton_perm.mp matching).symm
      ((Fields.get?_perm distinct perm _).symm.trans found)
  | default unmatched found =>
    exact .default (unmatched.of_perm perm) ((Fields.get?_perm distinct perm _).symm.trans found)

theorem evaluate_perm (setting : Setting) (name : String) :
    SameOutcome (evaluate setting (keyedBy name alternatives)) (evaluate setting (keyedBy name others)) := by
  rcases selects_or alternatives (setting.textOf? name) with
    ⟨next, selects⟩ | ⟨text, found, inexact, several⟩ | ⟨unmatched, noDefault⟩
  · rw [evaluate_selected selects, evaluate_selected (selects.of_perm distinct perm)]
    exact .same _
  · have matching := patternKeys_perm perm text
    rw [evaluate_ambiguous found inexact several, evaluate_ambiguous found
      ((Fields.keys_perm perm).mem_iff.not.mp inexact) (matching.length_eq ▸ several)]
    exact .ambiguous matching
  · rw [evaluate_unresolved unmatched noDefault, evaluate_unresolved (unmatched.of_perm perm)
      ((Fields.keys_perm perm).mem_iff.not.mp noDefault)]
    exact .same _

end Perm

theorem choose_congr (same : alternatives.keys = others.keys) :
    choose alternatives sought = choose others sought := by
  have contains (key : String) : alternatives.contains key = others.contains key := by
    rw [Bool.eq_iff_iff, Fields.contains_iff_mem_keys, Fields.contains_iff_mem_keys, same]
  cases sought <;> simp only [choose, chooseDefault, patternKeys, contains, same]

section Inside

variable {before after : Fields}
  (deeper : SameOutcome (evaluate setting value) (evaluate setting other))
include deeper

theorem evaluateUnder_inside {missing : Error} {chosen : String} :
    SameOutcome (evaluateUnder setting missing chosen (before ++ (key, value) :: after))
      (evaluateUnder setting missing chosen (before ++ (key, other) :: after)) := by
  induction before with
  | nil =>
    rw [List.nil_append, List.nil_append, evaluateUnder, evaluateUnder]
    split
    · exact deeper
    · exact .same _
  | cons entry before ih =>
    obtain ⟨k, v⟩ := entry
    rw [List.cons_append, List.cons_append, evaluateUnder, evaluateUnder]
    split
    · exact .same _
    · exact ih

theorem evaluate_inside : SameOutcome (evaluate setting (keyedBy name (before ++ (key, value) :: after)))
    (evaluate setting (keyedBy name (before ++ (key, other) :: after))) := by
  have same : Fields.keys (before ++ (key, value) :: after) =
      Fields.keys (before ++ (key, other) :: after) := by
    simp [Fields.keys]
  rw [evaluate_keyedBy, evaluate_keyedBy, choose_congr same]
  split
  · exact .same _
  · exact .same _
  · exact evaluateUnder_inside deeper

end Inside

theorem Reordered.sameOutcome (reordered : Reordered value other) (setting : Setting) :
    SameOutcome (evaluate setting value) (evaluate setting other) := by
  induction reordered with
  | refl value => exact .same _
  | trans _ _ first second => exact first.trans second
  | alternatives distinct perm => exact evaluate_perm distinct perm setting _
  | inside _ ih => exact evaluate_inside ih

/-- Evaluation follows the rules, level by level. A result is found in the value and is evaluated
to itself, whatever the discriminants. The order of alternatives does not matter, but for that of
the keys in a failure. -/
theorem evaluate_follows_rules (setting : Setting) (value : Json) :
    (∀ outcome, evaluate setting value = outcome ↔ Evaluates setting value outcome) ∧
      (∀ result, evaluate setting value = .ok result → result.Inside value ∧ ¬ IsKeyed result ∧
        ∀ other, evaluate other result = .ok result) ∧
      ∀ other, Reordered value other → SameOutcome (evaluate setting value) (evaluate setting other) := by
  refine ⟨fun outcome => evaluates_iff, fun result evaluated => ?_, fun other reordered =>
    reordered.sameOutcome setting⟩
  obtain ⟨inside, plain⟩ := (evaluates_iff.mp evaluated).resolved
  exact ⟨inside, plain, fun other => evaluate_plain plain⟩

end Engine

/-- A platform that a pattern matches, and no project. -/
def linuxSetting : Setting where
  field := "max-run-time"
  context := "In build task:"
  lookup name := if name = "platform" then some (.str "linux64") else none

theorem evaluate_follows_rules_linux :
    let hours := keyedBy "project" [("default", .str "1h")]
    let value := keyedBy "platform" [("default", .str "2h"), ("linux.*", hours)]
    Evaluates linuxSetting value (.ok (.str "1h")) ∧ (Json.str "1h").Inside value ∧
      SameOutcome (evaluate linuxSetting value)
        (evaluate linuxSetting (keyedBy "platform" [("linux.*", hours), ("default", .str "2h")])) := by
  intro hours value
  obtain ⟨rules, resolved, unordered⟩ := evaluate_follows_rules linuxSetting value
  have evaluated : evaluate linuxSetting value = .ok (.str "1h") := by decide +kernel
  have distinct : Fields.keys [("default", .str "2h"), ("linux.*", hours)] |>.Nodup := by
    simp [Fields.keys]
  exact ⟨(rules _).mp evaluated, (resolved _ evaluated).1,
    unordered _ (.alternatives distinct (.swap _ _ _))⟩

end KeyedBy

end TaskPlan
