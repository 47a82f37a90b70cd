import TaskPlan.Proofs.Optimize.Queries
import TaskPlan.Proofs.Reference.Template

/-!
# The ids in index paths

A dependency of a candidate has a final id, whether it was replaced in the same run or in
an earlier one (`OptimizedGraph.finalUnder`), and a candidate that is kept reports these ids.
But a pass knows those of the same run only. A path is looked up if it names no other
dependencies, and passed over if it does (`optimize_renders`).
-/

namespace TaskPlan

namespace OptimizedGraph

/-- The final id of the dependency of this name, which a kept task also has if the
dependency has been replaced in an earlier run. -/
def finalUnder (out : OptimizedGraph) (input : TaskGraph) (label name : String) : Option String :=
  (((input.dependencies label).get? name).bind out.taskIds.get?).or
    ((input.externalOf label).get? name)

end OptimizedGraph

namespace Optimize

section Matcher

variable [Glob.Matcher]

variable {params : OptimizeParams} {input : TaskGraph} {index : Index} {ids : TaskIds}
  {label : String} {directive : Directive} {out : OptimizedGraph}

theorem mem_asked_iff (sound : input.Sound) {after : Cache}
    (ran : (optimize .standard ids params input).run index .empty = (.ok out, after)) {path : String} :
    path ∈ after.asked ↔ ∃ label, Sought params input index label path := by
  have tidy : after.Tidy := by
    have kept : ((optimize .standard ids params input).run index .empty).2.Tidy :=
      optimize_tidy .empty Cache.empty_tidy
    rwa [ran] at kept
  obtain ⟨removed, replaced, removals, pass⟩ := optimize_pass ran
  rw [tidy.asked_iff, replacements_remembers sound (mem_removals_standard sound removals) pass]

section Candidate

variable (sound : input.Sound)
  (ran : ((optimize .standard ids params input).run index .empty).1 = .ok out)
include sound ran

/-- A dependency of a candidate that is still in the graph is replaced in the run. -/
theorem replacedUnder_of_edge (considers : out.Considers params input label directive)
    {name dependency : String} (edge : (input.dependencies label).get? name = some dependency) :
    ∃ id, out.decisions.get? dependency = some (.replaced id) ∧
      out.replacedUnder input label name = some id ∧ out.finalUnder input label name = some id := by
  obtain ⟨removed_iff, -, -⟩ := optimize_decided sound ran
  have depends := depends_of_dependency sound edge
  rcases considers.decided dependency depends with gone | ⟨id, taken⟩
  · have skipped := ((removed_iff dependency).mp gone).dependent depends
    exact absurd ((removed_iff label).mpr skipped) considers.stays
  · refine ⟨id, taken, ?_, ?_⟩
    · rw [OptimizedGraph.replacedUnder, edge, Option.bind_some, taken]
      rfl
    · obtain ⟨removed, replaced, decides, rfl⟩ := optimize_decides sound ran
      have consistent := decides.consistent sound
      have decided := (decisions_settled_iff sound consistent (by simp)).mp taken
      rw [OptimizedGraph.finalUnder, edge, Option.bind_some,
        get?_taskIds_replaced sound consistent decided, Option.some_or]

omit [Glob.Matcher] ran in
/-- A dependency that an earlier run replaced has its id, but the pass does not know it. -/
theorem replacedUnder_of_external {name id : String}
    (before : (input.externalOf label).get? name = some id) :
    out.replacedUnder input label name = none ∧ out.finalUnder input label name = some id := by
  have gone : (input.dependencies label).get? name = none :=
    sound.get?_dependencies_eq_none ((TaskGraph.get?_externalOf _ _ _).symm.trans before)
  rw [OptimizedGraph.replacedUnder, OptimizedGraph.finalUnder, gone, before]
  exact ⟨rfl, rfl⟩

theorem replacedUnder_eq (considers : out.Considers params input label directive) {name : String}
    (fresh : (input.externalOf label).get? name = none) :
    out.replacedUnder input label name = out.finalUnder input label name := by
  cases edge : (input.dependencies label).get? name with
  | none =>
    rw [OptimizedGraph.replacedUnder, OptimizedGraph.finalUnder, edge, fresh]
    rfl
  | some dependency =>
    obtain ⟨id, -, known, final⟩ := replacedUnder_of_edge sound ran considers edge
    rw [known, final]

/-- A kept task reports the final ids of all its dependencies. -/
theorem dependencyIds_final {task : Task} (found : out.graph.get? label = some task) :
    ∃ reported, out.dependencyIds label = .ok reported ∧
      ∀ name, reported.get? name = out.finalUnder input label name := by
  obtain ⟨removed, replaced, decides, rfl⟩ := optimize_decides sound ran
  obtain ⟨-, present⟩ := TaskGraph.get?_rebuilt.mp found
  obtain ⟨reported, ok, declared, internal, external⟩ :=
    dependencyIds_settled sound (decides.consistent sound) found
  refine ⟨reported, ok, fun name => ?_⟩
  rw [OptimizedGraph.finalUnder]
  cases edge : (input.dependencies label).get? name with
  | some dependency =>
    have member := sound.get?_dependencies.mp edge
    have under := sound.idUnder_of_edge member
    rw [internal name dependency member, Option.bind_some, TaskGraph.get?_externalOf, under,
      Option.or_none]
  | none =>
    cases before : (input.externalOf label).get? name with
    | some id => exact external name id before
    | none =>
      have undeclared : task.dependencies.contains name =
          ((input.dependencies label).contains name || (input.externalOf label).contains name) :=
        sound.contains_declared present
      rw [← declared name, KeyMap.contains, KeyMap.contains, KeyMap.contains, edge, before] at undeclared
      simpa using undeclared

end Candidate

/-- In a run that succeeds, a candidate's path that can be rendered with the final ids of the
dependencies is looked up under these ids if the run itself has replaced all dependencies
that the path names. A path that names one that an earlier run has replaced is passed over,
although the task reports the id of that one too if it is kept. -/
theorem optimize_renders (reachable : input.Reachable) {after : Cache}
    (ran : (optimize .standard ids params input).run index .empty = (.ok out, after))
    (considers : out.Considers params input label directive) :
    (∀ task, out.graph.get? label = some task → ∃ reported, out.dependencyIds label = .ok reported ∧
      ∀ name, reported.get? name = out.finalUnder input label name) ∧
    (∀ name dependency, (⟨label, dependency, name⟩ : Edge) ∈ input.graph.edges →
      ∃ id, out.decisions.get? dependency = some (.replaced id) ∧
        out.finalUnder input label name = some id) ∧
    (∀ name id, (input.externalOf label).get? name = some id →
      out.finalUnder input label name = some id) ∧
    ∀ template ∈ directive.indexPaths, ∀ path,
      Template.render (out.finalUnder input label) template = .ok path →
      ((∀ name ∈ Template.names template, (input.externalOf label).get? name = none) →
        Template.render (out.replacedUnder input label) template = .ok path ∧ path ∈ after.asked) ∧
      ∀ name ∈ Template.names template, ∀ id, name ≠ "<" →
        (input.externalOf label).get? name = some id →
          ∀ other, Template.render (out.replacedUnder input label) template ≠ .ok other := by
  have sound := reachable.sound
  have succeeds : ((optimize .standard ids params input).run index .empty).1 = .ok out := by rw [ran]
  refine ⟨fun task found => dependencyIds_final sound succeeds found, ?_, ?_, ?_⟩
  · intro name dependency member
    obtain ⟨id, taken, -, final⟩ :=
      replacedUnder_of_edge sound succeeds considers (sound.get?_dependencies.mpr member)
    exact ⟨id, taken, final⟩
  · exact fun name id before => (replacedUnder_of_external sound before).2
  · intro template declared path under
    refine ⟨fun fresh => ?_, fun name member id literal before other => ?_⟩
    · have same : Template.render (out.replacedUnder input label) template = .ok path := by
        rw [← under]
        exact Template.render_congr fun name member =>
          replacedUnder_eq sound succeeds considers (fresh name member)
      refine ⟨same, (mem_asked_iff sound ran).mpr ⟨label, ?_⟩⟩
      exact (sought_iff sound succeeds).mpr ⟨directive, template, considers, declared, same⟩
    · exact Template.render_missing member literal (replacedUnder_of_external sound before).1

end Matcher

/-- An image, and a task that is looked for under a path with the image's id. -/
def imageAndBasedUse : List Task :=
  [⟨"image", "docker", .empty, .empty, some (.indexSearch ["images.latest"]), .alwaysOptimized, .null⟩,
    ⟨"use", "run", .empty, .ofList [("base", "image")], some (.indexSearch ["uses.<base>"]),
      .alwaysOptimized, .null⟩]

/-- An index with one result, for the task that uses the image. -/
def basedUseIndex : Index := fun path =>
  if path = "uses.T" then .ok (some ⟨"U", .completed, ⟨0, 0⟩⟩) else .ok none

/-- The run that replaces the image looks the second task up under the image's id. -/
theorem optimize_renders_image :
    ∃ (input : TaskGraph) (out : OptimizedGraph) (after : Cache), input.Reachable ∧
      out.Considers .empty input "use" (.indexSearch ["uses.<base>"]) ∧
      Template.render (out.finalUnder input "use") "uses.<base>" = .ok "uses.T" ∧
      "uses.T" ∈ after.asked := by
  obtain ⟨input, built, h⟩ := exists_ok (x := TaskGraph.ofTasks imageAndBasedUse)
    (p := fun input =>
      (input.get? "use").map Task.optimization = some (some (.indexSearch ["uses.<base>"])) ∧
      input.graph.edges.toList = [⟨"use", "image", "base"⟩] ∧ input.externalOf "use" = .empty ∧
      ((optimize .standard (.sequential "t") .empty input).run TaskGraph.imageIndex .empty).1.toOption.any
        fun out => out.decisions.toList = [("image", .replaced "T"), ("use", .keep)] ∧
          (Template.render (out.finalUnder input "use") "uses.<base>").toOption = some "uses.T")
    (by decide +kernel)
  obtain ⟨given, edges, external, h⟩ := of_decide_eq_true h
  obtain ⟨out, ran, h⟩ := exists_ok h
  obtain ⟨decided, rendered⟩ := of_decide_eq_true h
  have decision (label : String) (decision : Decision) :
      out.decisions.get? label = some decision ↔ (label, decision) ∈ out.decisions.toList :=
    KeyMap.mem_toList_iff.symm
  have considers : out.Considers .empty input "use" (.indexSearch ["uses.<base>"]) := by
    refine ⟨?_, by simp [OptimizeParams.empty], rfl, Option.map_eq_some_iff.mp given, ?_⟩
    · rw [ne_eq, decision, decided]
      simp
    · rintro dependency ⟨name, member⟩
      rw [← SortedSet.mem_toList, edges] at member
      simp only [List.mem_singleton, Edge.mk.injEq, true_and] at member
      obtain ⟨rfl, rfl⟩ := member
      exact .inr ⟨"T", (decision _ _).mpr (by simp [decided])⟩
  have under : Template.render (out.finalUnder input "use") "uses.<base>" = .ok "uses.T" :=
    ok_of_toOption rendered
  have reachable := TaskGraph.Reachable.built built
  obtain ⟨-, -, -, paths⟩ := optimize_renders reachable (Prod.ext ran rfl) considers
  obtain ⟨asked, -⟩ := paths "uses.<base>" (by simp) "uses.T" under
  exact ⟨input, out, _, reachable, considers, under, (asked fun name _ => by rw [external]; rfl).2⟩

/-- A later run passes the path over and keeps the task, although the task reports the
image's id and the index has a result under the path with that id. -/
theorem optimize_renders_not_earlier :
    ∃ (input : TaskGraph) (out : OptimizedGraph) (after : Cache), input.Reachable ∧
      (optimize .standard (.sequential "u") .empty input).run basedUseIndex .empty = (.ok out, after) ∧
      out.Considers .empty input "use" (.indexSearch ["uses.<base>"]) ∧
      (out.dependencyIds "use").map KeyMap.toList = .ok [("base", "T")] ∧
      Template.render (out.finalUnder input "use") "uses.<base>" = .ok "uses.T" ∧
      "uses.T" ∉ after.asked ∧ out.decisions.get? "use" = some .keep := by
  obtain ⟨first, built, h⟩ := exists_ok (x := TaskGraph.ofTasks imageAndBasedUse)
    (p := fun first => ((optimize .standard (.sequential "t") .empty first).run
        TaskGraph.imageIndex .empty).1.toOption.any fun left =>
      (left.graph.get? "use").map Task.optimization = some (some (.indexSearch ["uses.<base>"])) ∧
      left.graph.graph.edges.toList = [] ∧
      ((optimize .standard (.sequential "u") .empty left.graph).run basedUseIndex .empty).2.asked = [] ∧
      ((optimize .standard (.sequential "u") .empty left.graph).run basedUseIndex .empty).1.toOption.any
        fun out => out.decisions.toList = [("use", .keep)] ∧
          ((out.dependencyIds "use").map KeyMap.toList).toOption = some [("base", "T")] ∧
          (Template.render (out.finalUnder left.graph "use") "uses.<base>").toOption = some "uses.T")
    (by decide +kernel)
  obtain ⟨left, ranFirst, h⟩ := exists_ok h
  obtain ⟨given, edges, asked, h⟩ := of_decide_eq_true h
  obtain ⟨out, ran, h⟩ := exists_ok h
  obtain ⟨decided, reported, rendered⟩ := of_decide_eq_true h
  have kept : out.decisions.get? "use" = some .keep := KeyMap.mem_toList_iff.mp (by simp [decided])
  have considers : out.Considers .empty left.graph "use" (.indexSearch ["uses.<base>"]) := by
    refine ⟨by simp [kept], by simp [OptimizeParams.empty], rfl, Option.map_eq_some_iff.mp given, ?_⟩
    rintro dependency ⟨name, member⟩
    rw [← SortedSet.mem_toList, edges] at member
    cases member
  refine ⟨left.graph, out, _, (TaskGraph.Reachable.built built).optimized ranFirst, Prod.ext ran rfl,
    considers, ok_of_toOption reported, ok_of_toOption rendered, by simp [asked], kept⟩

end Optimize

end TaskPlan
