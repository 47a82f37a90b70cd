import TaskPlan.Proofs.Reference.Placeholder

/-!
# Resolving once

Resolving takes two passes, and a reference may hold a relative moment that the first one
replaces. Together they put a text in the place of each placeholder, outermost ones as a
whole, and leave all else as it was (`resolve_filled`). A value without placeholders stays
as it is (`resolve_of_free`), so resolving again changes nothing (`resolve_final`).
-/

namespace TaskPlan

namespace Placeholder

variable {kinds : List Placeholder} {evaluate : Placeholder → Json → Result Json}

/-! ### Values that stay -/

mutual

/-- There is nothing to replace in a value without placeholders of these kinds. -/
theorem replace_of_free : ∀ value, Free kinds value → replace kinds evaluate value = .ok value
  | .arr items, free => by rw [replace, replaceItems_of_free items (free_arr.mp free)]; rfl
  | .obj fields, free => by
    obtain ⟨plain, free⟩ := free_obj.mp free
    rw [replace, find?_eq_none_iff.mpr plain, replaceFields_of_free fields free]
    rfl
  | .null, _ | .bool _, _ | .num _, _ | .str _, _ => rfl

theorem replaceItems_of_free : ∀ items : List Json, (∀ item ∈ items, Free kinds item) →
    replaceItems kinds evaluate items = .ok items
  | [], _ => rfl
  | item :: rest, free => by
    obtain ⟨here, later⟩ := List.forall_mem_cons.mp free
    rw [replaceItems, replace_of_free item here, replaceItems_of_free rest later]
    rfl

theorem replaceFields_of_free : ∀ fields : List (String × Json), (∀ entry ∈ fields, Free kinds entry.2) →
    replaceFields kinds evaluate fields = .ok fields
  | [], _ => rfl
  | (key, value) :: rest, free => by
    obtain ⟨here, later⟩ := List.forall_mem_cons.mp free
    rw [replaceFields, replace_of_free value here, replaceFields_of_free rest later]
    rfl

end

/-! ### Values with texts in place of placeholders -/

mutual

/-- The result has a text for each outermost placeholder, one that this stands for, and is
otherwise as the value: the same items, keys and leaves. -/
inductive Filled (stands : Placeholder → Json → String → Prop) : (value result : Json) → Prop where
  | placeholder {placeholder : Placeholder} {content : Json} {text : String}
      (known : stands placeholder content text) :
      Filled stands (.obj [(placeholder.key, content)]) (.str text)
  | leaf {value : Json} (noItems : value.arr? = none) (noEntries : value.obj? = none) :
      Filled stands value value
  | list {items results : List Json} (each : FilledItems stands items results) :
      Filled stands (.arr items) (.arr results)
  | mapping {fields results : Fields} (plain : ∀ placeholder : Placeholder, ¬ placeholder.Marks (.obj fields))
      (each : FilledFields stands fields results) : Filled stands (.obj fields) (.obj results)

inductive FilledItems (stands : Placeholder → Json → String → Prop) : (items results : List Json) → Prop where
  | nil : FilledItems stands [] []
  | cons {item result : Json} {rest others : List Json} (here : Filled stands item result)
      (later : FilledItems stands rest others) : FilledItems stands (item :: rest) (result :: others)

inductive FilledFields (stands : Placeholder → Json → String → Prop) : (fields results : Fields) → Prop where
  | nil : FilledFields stands [] []
  | cons {key : String} {value result : Json} {rest others : Fields} (here : Filled stands value result)
      (later : FilledFields stands rest others) :
      FilledFields stands ((key, value) :: rest) ((key, result) :: others)

end

section Twice

variable {others : List Placeholder} {first second : Placeholder → Json → Result Json}
  {stands : Placeholder → Json → String → Prop}

theorem eq_of_find? {fields : Fields} {placeholder : Placeholder} {content : Json}
    (found : find? kinds fields = some (placeholder, content)) :
    placeholder ∈ kinds ∧ fields = [(placeholder.key, content)] := by
  match fields, found with
  | [(name, inner)], found =>
    obtain ⟨kind, known, same⟩ := Option.map_eq_some_iff.mp found
    cases same
    have named := List.find?_some known
    rw [beq_iff_eq] at named
    exact ⟨List.mem_of_find?_eq_some known, by rw [named]⟩

/-- What the placeholders that the first pass replaces, and those that the second one replaces
after it, stand for. -/
structure TwoPasses (kinds others : List Placeholder) (first second : Placeholder → Json → Result Json)
    (stands : Placeholder → Json → String → Prop) : Prop where
  all : ∀ placeholder, placeholder ∈ kinds ∨ placeholder ∈ others
  early : ∀ placeholder ∈ kinds, ∀ content result, first placeholder content = .ok result →
    ∃ text, result = .str text ∧ stands placeholder content text
  late : ∀ placeholder ∈ others, ∀ content middle result, replace kinds first content = .ok middle →
    second placeholder middle = .ok result → ∃ text, result = .str text ∧ stands placeholder content text

/-- A single entry keeps its key, and its value is replaced. -/
theorem replaceFields_single {fields : Fields} {key : String} {middle : Json}
    (replaced : replaceFields kinds first fields = .ok [(key, middle)]) :
    ∃ content, fields = [(key, content)] ∧ replace kinds first content = .ok middle := by
  have keys := keys_replaceFields replaced
  match fields, keys with
  | [(name, content)], keys =>
    cases keys
    obtain ⟨value, here, replaced⟩ := bind_ok_iff.mp replaced
    cases replaced
    exact ⟨content, rfl, here⟩

mutual

theorem replace_twice (passes : TwoPasses kinds others first second stands) :
    ∀ value middle result, replace kinds first value = .ok middle →
      replace others second middle = .ok result → Filled stands value result
  | .arr items, middle, result, early, late => by
    obtain ⟨middles, replaced, rfl⟩ := map_ok_iff.mp early
    obtain ⟨results, replacedToo, rfl⟩ := map_ok_iff.mp late
    exact .list (replaceItems_twice passes items middles results replaced replacedToo)
  | .obj fields, middle, result, early, late => by
    rw [replace] at early
    split at early
    · rename_i placeholder content found
      obtain ⟨known, rfl⟩ := eq_of_find? found
      obtain ⟨text, rfl, stood⟩ := passes.early placeholder known content middle early
      cases late
      exact .placeholder stood
    · rename_i plain
      obtain ⟨middles, replaced, rfl⟩ := map_ok_iff.mp early
      rw [replace] at late
      split at late
      · rename_i placeholder dated found
        obtain ⟨known, rfl⟩ := eq_of_find? found
        obtain ⟨content, rfl, resolved⟩ := replaceFields_single replaced
        obtain ⟨text, rfl, stood⟩ := passes.late placeholder known content dated result resolved late
        exact .placeholder stood
      · rename_i plainToo
        obtain ⟨results, replacedToo, rfl⟩ := map_ok_iff.mp late
        refine .mapping (fun placeholder => ?_)
          (replaceFields_twice passes fields middles results replaced replacedToo)
        rcases passes.all placeholder with here | there
        · exact find?_eq_none_iff.mp plain placeholder here
        · rw [marks_obj, ← keys_replaceFields replaced, ← marks_obj]
          exact find?_eq_none_iff.mp plainToo placeholder there
  | .null, middle, result, early, late | .bool _, middle, result, early, late
  | .num _, middle, result, early, late | .str _, middle, result, early, late => by
    cases early
    cases late
    exact .leaf rfl rfl

theorem replaceItems_twice (passes : TwoPasses kinds others first second stands) :
    ∀ items middles results : List Json, replaceItems kinds first items = .ok middles →
      replaceItems others second middles = .ok results → FilledItems stands items results
  | [], middles, results, early, late => by
    cases early
    cases late
    exact .nil
  | item :: rest, middles, results, early, late => by
    obtain ⟨middle, replaced, early⟩ := bind_ok_iff.mp early
    obtain ⟨more, replacedRest, same⟩ := bind_ok_iff.mp early
    cases same
    obtain ⟨result, replacedToo, late⟩ := bind_ok_iff.mp late
    obtain ⟨others, replacedRestToo, same⟩ := bind_ok_iff.mp late
    cases same
    exact .cons (replace_twice passes item middle result replaced replacedToo)
      (replaceItems_twice passes rest more others replacedRest replacedRestToo)

theorem replaceFields_twice (passes : TwoPasses kinds others first second stands) :
    ∀ fields middles results : List (String × Json), replaceFields kinds first fields = .ok middles →
      replaceFields others second middles = .ok results → FilledFields stands fields results
  | [], middles, results, early, late => by
    cases early
    cases late
    exact .nil
  | (key, value) :: rest, middles, results, early, late => by
    obtain ⟨middle, replaced, early⟩ := bind_ok_iff.mp early
    obtain ⟨more, replacedRest, same⟩ := bind_ok_iff.mp early
    cases same
    obtain ⟨result, replacedToo, late⟩ := bind_ok_iff.mp late
    obtain ⟨others, replacedRestToo, same⟩ := bind_ok_iff.mp late
    cases same
    exact .cons (replace_twice passes value middle result replaced replacedToo)
      (replaceFields_twice passes rest more others replacedRest replacedRestToo)

end

end Twice

theorem content_ok {label : String} {placeholder : Placeholder} {value : Json} {input : String}
    (read : placeholder.content label value = .ok input) : value = .str input := by
  cases value <;> cases read
  rfl

end Placeholder

namespace Resolver

variable {resolver : Resolver} {context : ReferenceContext} {content value result : Json}

/-- The content is a text with a moment relative to that of the resolver, which has this stamp. -/
def Stamps (resolver : Resolver) (content : Json) (stamp : String) : Prop :=
  ∃ input, content = .str input ∧ Instant.stampFrom? input resolver.now = some stamp

/-- The content is the text of a reference, or a relative moment whose stamp is that text. -/
def Refers (resolver : Resolver) (content : Json) (input : String) : Prop :=
  content = .str input ∨
    ∃ moment, content = .obj [(Placeholder.relativeDatestamp.key, moment)] ∧ resolver.Stamps moment input

/-- The text that a placeholder with this content stands for. -/
def Stands (resolver : Resolver) (context : ReferenceContext) :
    Placeholder → (content : Json) → (text : String) → Prop
  | .relativeDatestamp, content, text => resolver.Stamps content text
  | placeholder, content, text => ∃ input, resolver.Refers content input ∧
      context.render resolver.rootUrl input placeholder = .ok text

theorem refers_of_resolveTimestamps {label input : String}
    (stamped : resolveTimestamps resolver.now label content = .ok (.str input)) :
    resolver.Refers content input := by
  cases content with
  | str s =>
    cases stamped
    exact .inl rfl
  | arr items =>
    obtain ⟨_, -, same⟩ := map_ok_iff.mp stamped
    cases same
  | obj fields =>
    rw [resolveTimestamps, Placeholder.replace] at stamped
    split at stamped
    · rename_i placeholder moment found
      obtain ⟨known, rfl⟩ := Placeholder.eq_of_find? found
      cases List.mem_singleton.mp known
      obtain ⟨text, read, stamped⟩ := bind_ok_iff.mp stamped
      split at stamped
      · rename_i stamp found
        cases stamped
        exact .inr ⟨moment, rfl, text, Placeholder.content_ok read, found⟩
      · cases stamped
    · obtain ⟨_, -, same⟩ := map_ok_iff.mp stamped
      cases same
  | null => cases stamped
  | bool b => cases stamped
  | num n => cases stamped

/-- Resolving puts a text in the place of each placeholder and leaves all else as it was. -/
theorem resolve_filled (resolved : resolver.resolve context value = .ok result) :
    Placeholder.Filled (resolver.Stands context) value result := by
  obtain ⟨dated, stamped, rendered⟩ := bind_ok_iff.mp resolved
  refine Placeholder.replace_twice ⟨?_, ?_, ?_⟩ value dated result stamped rendered
  · rintro (_ | _ | _) <;> simp
  · intro placeholder known content result evaluated
    cases List.mem_singleton.mp known
    obtain ⟨input, read, evaluated⟩ := bind_ok_iff.mp evaluated
    split at evaluated
    · rename_i stamp found
      cases evaluated
      exact ⟨stamp, rfl, input, Placeholder.content_ok read, found⟩
    · cases evaluated
  · intro placeholder known content middle result earlier evaluated
    obtain ⟨input, read, rendered⟩ := bind_ok_iff.mp evaluated
    cases Placeholder.content_ok read
    have refers : resolver.Refers content input := refers_of_resolveTimestamps earlier
    split at rendered
    · rename_i text found
      cases rendered
      refine ⟨text, rfl, ?_⟩
      cases placeholder with
      | relativeDatestamp => simp at known
      | taskReference => exact ⟨input, refers, found⟩
      | artifactReference => exact ⟨input, refers, found⟩
    · cases rendered

/-- A value without placeholders is resolved to itself, by any resolver for any task. -/
theorem resolve_of_free (free : Placeholder.Free Placeholder.all value) :
    resolver.resolve context value = .ok value := by
  have undated : Placeholder.Free [.relativeDatestamp] value := free.mono (by simp [Placeholder.all])
  have unreferring : Placeholder.Free [.taskReference, .artifactReference] value :=
    free.mono (by simp [Placeholder.all])
  rw [resolve, resolveTimestamps, Placeholder.replace_of_free value undated]
  exact Placeholder.replace_of_free value unreferring

/-- Once a value is resolved, no placeholder is left at any depth, the placeholders have been
replaced by the texts that they stand for and nothing else has changed, and resolving again
changes nothing, for whichever task and moment. -/
theorem resolve_final (resolved : resolver.resolve context value = .ok result) :
    Placeholder.Free Placeholder.all result ∧
      Placeholder.Filled (resolver.Stands context) value result ∧
      ∀ (other : Resolver) (owner : ReferenceContext), other.resolve owner result = .ok result :=
  have free := resolve_free resolved
  ⟨free, resolve_filled resolved, fun _ _ => resolve_of_free free⟩

/-- A reference that holds a relative moment, one to an artifact inside a list, and a mapping
that is no placeholder because it has a second key. -/
def nestedPlaceholders : Json := .obj [
  ("stamp", .obj [("task-reference", .obj [("relative-datestamp", .str "1 day")])]),
  ("command", .arr [.str "fetch", .obj [("artifact-reference", .str "<build/public/log.txt>")]]),
  ("both", .obj [("task-reference", .str "<build>"), ("relative-datestamp", .str "1 day")])]

def resolvedPlaceholders : Json := .obj [
  ("stamp", .str "1970-01-02T00:00:00.000Z"),
  ("command", .arr [.str "fetch",
    .str "https://ci.example.net/api/queue/v1/task/B/artifacts/public/log.txt"]),
  ("both", .obj [("task-reference", .str "<build>"), ("relative-datestamp", .str "1 day")])]

theorem resolve_final_nested :
    (Resolver.mk ⟨0, 0⟩ "https://ci.example.net").resolve
        ⟨"test", "T", .ofList [("build", "B")]⟩ nestedPlaceholders = .ok resolvedPlaceholders ∧
      Placeholder.Free Placeholder.all resolvedPlaceholders ∧
      (Resolver.mk ⟨86400, 0⟩ "").resolve ⟨"other", "U", .empty⟩ resolvedPlaceholders =
        .ok resolvedPlaceholders := by
  have resolved : (Resolver.mk ⟨0, 0⟩ "https://ci.example.net").resolve
      ⟨"test", "T", .ofList [("build", "B")]⟩ nestedPlaceholders = .ok resolvedPlaceholders :=
    ok_of_toOption (by decide +kernel)
  obtain ⟨free, -, again⟩ := resolve_final resolved
  exact ⟨resolved, free, again _ _⟩

end Resolver

end TaskPlan
