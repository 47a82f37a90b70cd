import TaskPlan.Proofs.KeyedBy.InPlace

/-!
# Fields in any order

Resolving a field may change what another one is keyed by, so that the order of fields matters.
It does not where the job has none of the discriminants that its fields ask for (`Ready`): then
all are those of the run, and what one field becomes has no say in the others (`Ready.swap`,
`resolveAll_perm`).
-/

namespace TaskPlan

namespace KeyedBy

variable [Regex.Engine]

variable {names fields others : List String} {context field other : String} {params : Fields}
  {job next last : Job} {value result : Json}

/-! ### What an evaluation asks for -/

/-- Only the named discriminants have a say in what the value is evaluated to. -/
def DecidedBy (names : List String) (value : Json) : Prop :=
  ∀ field context, ∀ lookup others : String → Option Json, (∀ name ∈ names, lookup name = others name) →
    evaluate ⟨field, context, lookup⟩ value = evaluate ⟨field, context, others⟩ value

theorem evaluateUnder_congr {setting setting' : Setting} {missing : Error} {chosen : String} {entries : Fields}
    (same : ∀ entry ∈ entries, evaluate setting entry.2 = evaluate setting' entry.2) :
    evaluateUnder setting missing chosen entries = evaluateUnder setting' missing chosen entries := by
  induction entries with
  | nil => rw [evaluateUnder, evaluateUnder]
  | cons entry rest ih =>
    obtain ⟨here, later⟩ := List.forall_mem_cons.mp same
    obtain ⟨key, value⟩ := entry
    rw [evaluateUnder, evaluateUnder, here, ih later]

/-- A keyed-by mapping asks for its own discriminant and for those of its alternatives. -/
theorem DecidedBy.keyedBy {name : String} (named : name ∈ names) {alternatives : Fields}
    (each : ∀ entry ∈ alternatives, DecidedBy names entry.2) :
    DecidedBy names (keyedBy name alternatives) := by
  intro field context lookup others same
  have text : Setting.textOf? ⟨field, context, lookup⟩ name = Setting.textOf? ⟨field, context, others⟩ name :=
    congrArg (Option.bind · discriminantText) (same name named)
  rw [evaluate_keyedBy, evaluate_keyedBy, text]
  split
  · rfl
  · rfl
  · exact evaluateUnder_congr fun entry member => each entry member field context lookup others same

/-- The shape of keyed-by values names all that their evaluation asks for. -/
theorem decidedBy_of_settled {inner : Shape} (stiff : inner.rigid = true)
    (settled : Shape.Settled (.keyedBy names inner) value) : DecidedBy names value := by
  refine (Shape.completes_keyedBy.mp settled).elim (motive := fun _ result => DecidedBy names result) ?_ ?_
  · intro value result unkeyed gives
    have same := Shape.eq_of_rigid inner stiff _ _ gives
    subst same
    intro field context lookup others _
    rw [evaluate_of_unkeyed unkeyed, evaluate_of_unkeyed unkeyed]
  · intro name named key entries results marked each
    rw [Text.after?_eq_some] at marked
    subst marked
    refine DecidedBy.keyedBy named fun entry member => ?_
    obtain ⟨original, -, -, decided⟩ := exists_of_forall₂ each.flip member
    exact decided

/-! ### One field after another -/

/-- The job that is left when one field is resolved. -/
def step (context : String) (params : Fields) (job : Job) (field : String) : Result Job :=
  (resolve job field context params).map Prod.snd

/-- The job has none of the named discriminants, and its fields ask for no others. -/
structure Ready (names fields : List String) (job : Job) : Prop where
  silent : ∀ name ∈ names, job.getPath name = none
  decided : ∀ field ∈ fields, ∀ value, job.getPath field = some value → DecidedBy names value

/-- The fields lead to places of their own, and so do the discriminants. -/
structure Separate (names fields : List String) : Prop where
  apart : fields.Pairwise fun field other => Apart (segments field) (segments other)
  clear : ∀ name ∈ names, ∀ field ∈ fields, Apart (segments field) (segments name)

/-- What the value at a field becomes, by the values of the run alone. -/
def outcome (context : String) (params : Fields) (field : String) (value : Json) : Result Json :=
  evaluate ⟨field, context, params.get?⟩ value

theorem Ready.evaluate_eq (ready : Ready names fields job) (member : field ∈ fields)
    (found : job.getPath field = some value) :
    evaluate (jobSetting job field context params) value = outcome context params field value := by
  refine ready.decided field member value found field context _ _ fun name named => ?_
  rw [ready.silent name named, Option.none_or]

theorem Ready.step_eq (ready : Ready names fields job) (member : field ∈ fields) :
    step context params job field = .ok next ↔
      (job.getPath field = none ∧ next = job) ∨
        ∃ value result, job.getPath field = some value ∧ outcome context params field value = .ok result ∧
          job.setPath field result = some next := by
  cases found : job.getPath field with
  | none => simp [step, resolve_absent found, Except.map, eq_comm]
  | some value =>
    have same : evaluate (jobSetting job field context params) value = outcome context params field value :=
      ready.evaluate_eq member found
    cases evaluated : outcome context params field value with
    | error fault => simp [step, resolve_error found (same.trans evaluated), Except.map, evaluated]
    | ok result =>
      obtain ⟨updated, set, resolved⟩ := resolve_ok found (same.trans evaluated)
      simp [step, resolved, Except.map, evaluated, set]

theorem Ready.mono (ready : Ready names fields job) (part : ∀ field ∈ others, field ∈ fields) :
    Ready names others job :=
  ⟨ready.silent, fun field member => ready.decided field (part field member)⟩

/-- A step leaves what is at other places, and at its own something that asks for nothing. -/
theorem Ready.step (ready : Ready names (field :: fields) job) (separate : Separate names (field :: fields))
    (stepped : step context params job field = .ok next) : Ready names fields next := by
  rcases (ready.step_eq List.mem_cons_self).mp stepped with ⟨-, rfl⟩ | ⟨value, result, -, -, set⟩
  · exact ready.mono fun other => List.mem_cons_of_mem _
  · constructor
    · intro name named
      rw [Job.getPath_setPath_apart set (separate.clear name named field List.mem_cons_self)]
      exact ready.silent name named
    · intro other member value found
      rw [Job.getPath_setPath_apart set ((List.pairwise_cons.mp separate.apart).1 other member)] at found
      exact ready.decided other (List.mem_cons_of_mem _ member) value found

omit [Regex.Engine] in
theorem Separate.perm (separate : Separate names fields) (perm : fields.Perm others) : Separate names others where
  apart := (perm.pairwise_iff fun apart => apart.symm).mp separate.apart
  clear name named field member := separate.clear name named field (perm.mem_iff.mpr member)

omit [Regex.Engine] in
theorem Separate.sublist (separate : Separate names fields) (part : others.Sublist fields) :
    Separate names others where
  apart := separate.apart.sublist part
  clear name named field member := separate.clear name named field (part.subset member)

theorem Ready.perm (ready : Ready names fields job) (perm : fields.Perm others) : Ready names others job :=
  ready.mono fun _ member => perm.mem_iff.mpr member

/-- Two fields with places of their own may change their turns. -/
theorem Ready.swap {middle : Job} (ready : Ready names [field, other] job)
    (separate : Separate names [field, other])
    (here : KeyedBy.step context params job field = .ok middle)
    (there : KeyedBy.step context params middle other = .ok last) :
    ∃ between, KeyedBy.step context params job other = .ok between ∧
      KeyedBy.step context params between field = .ok last := by
  have apart : Apart (segments field) (segments other) :=
    (List.pairwise_cons.mp separate.apart).1 other List.mem_cons_self
  have turned : [field, other].Perm [other, field] := .swap _ _ _
  have left {between : Job} (stepped : KeyedBy.step context params job other = .ok between) :
      Ready names [field] between := (ready.perm turned).step (separate.perm turned) stepped
  rcases (ready.step_eq List.mem_cons_self).mp here with
    ⟨absent, rfl⟩ | ⟨value, result, found, evaluated, set⟩
  · refine ⟨last, there, ((left there).step_eq List.mem_cons_self).mpr (.inl ⟨?_, rfl⟩)⟩
    rcases (ready.step_eq (List.mem_cons_of_mem _ List.mem_cons_self)).mp there with
      ⟨-, rfl⟩ | ⟨_, _, -, -, set⟩
    · exact absent
    · rw [Job.getPath_setPath_apart set apart.symm, absent]
  · have after := ready.step separate here
    rcases (after.step_eq List.mem_cons_self).mp there with
      ⟨absent, rfl⟩ | ⟨value', result', found', evaluated', set'⟩
    · rw [Job.getPath_setPath_apart set apart] at absent
      exact ⟨job, (ready.step_eq (List.mem_cons_of_mem _ List.mem_cons_self)).mpr (.inl ⟨absent, rfl⟩), here⟩
    · rw [Job.getPath_setPath_apart set apart] at found'
      obtain ⟨between, first⟩ := Job.exists_setPath found' result'
      obtain ⟨both, second, second'⟩ := Job.setPath_comm found apart set first
      cases second.symm.trans set'
      have stepped : KeyedBy.step context params job other = .ok between :=
        (ready.step_eq (List.mem_cons_of_mem _ List.mem_cons_self)).mpr
          (.inr ⟨value', result', found', evaluated', first⟩)
      refine ⟨between, stepped, ((left stepped).step_eq List.mem_cons_self).mpr
        (.inr ⟨value, result, ?_, evaluated, second'⟩)⟩
      rw [Job.getPath_setPath_apart first apart.symm, found]

/-! ### All fields -/

theorem resolveAll_cons : resolveAll (field :: fields) context params job = .ok last ↔
    ∃ next, step context params job field = .ok next ∧ resolveAll fields context params next = .ok last :=
  bind_ok_iff

theorem resolveAll_of_perm (perm : fields.Perm others) (separate : Separate names fields)
    (ready : Ready names fields job) (ran : resolveAll fields context params job = .ok last) :
    resolveAll others context params job = .ok last := by
  induction perm generalizing job with
  | nil => exact ran
  | cons field _ ih =>
    obtain ⟨next, here, later⟩ := resolveAll_cons.mp ran
    exact resolveAll_cons.mpr ⟨next, here,
      ih (separate.sublist (List.sublist_cons_self _ _)) (ready.step separate here) later⟩
  | swap field other rest =>
    obtain ⟨middle, here, ran⟩ := resolveAll_cons.mp ran
    obtain ⟨next, there, later⟩ := resolveAll_cons.mp ran
    have part : [other, field].Sublist (other :: field :: rest) := by simp
    obtain ⟨between, first, second⟩ :=
      (ready.mono fun _ member => part.subset member).swap (separate.sublist part) here there
    exact resolveAll_cons.mpr ⟨between, first, resolveAll_cons.mpr ⟨next, second, later⟩⟩
  | trans perm _ first second =>
    exact second (separate.perm perm) (ready.perm perm) (first separate ready ran)

/-- The fields may be resolved in any order. -/
theorem resolveAll_perm (perm : fields.Perm others) (separate : Separate names fields)
    (ready : Ready names fields job) :
    resolveAll others context params job = .ok last ↔ resolveAll fields context params job = .ok last :=
  ⟨resolveAll_of_perm perm.symm (separate.perm perm) (ready.perm perm), resolveAll_of_perm perm separate ready⟩

end KeyedBy

end TaskPlan
