import Mathlib
import TaskPlan.Error

/-!
# Outcomes of steps and loops

`bind_ok_iff` opens a step that went well, and `foldlM_outcome` is the rule for loops:
what every round keeps holds at the end, and a failure is that of some round.
-/

namespace TaskPlan

theorem bind_ok_iff {x : Except ε α} {f : α → Except ε β} {b : β} :
    x >>= f = .ok b ↔ ∃ a, x = .ok a ∧ f a = .ok b := by
  cases x <;> simp [bind, Except.bind]

theorem bind_error_iff {x : Except ε α} {f : α → Except ε β} {fault : ε} :
    x >>= f = .error fault ↔ x = .error fault ∨ ∃ a, x = .ok a ∧ f a = .error fault := by
  cases x <;> simp [bind, Except.bind]

theorem mapError_ok_iff {x : Except δ α} {f : δ → ε} {a : α} : x.mapError f = .ok a ↔ x = .ok a := by
  cases x <;> simp [Except.mapError]

theorem mapError_error_iff {x : Except δ α} {f : δ → ε} {fault : ε} :
    x.mapError f = .error fault ↔ ∃ inner, x = .error inner ∧ f inner = fault := by
  cases x <;> simp [Except.mapError]

theorem map_ok_iff {x : Except ε α} {f : α → β} {b : β} :
    x.map f = .ok b ↔ ∃ a, x = .ok a ∧ f a = b := by
  cases x <;> simp [Except.map]

theorem map_error_iff {x : Except ε α} {f : α → β} {fault : ε} :
    x.map f = .error fault ↔ x = .error fault := by
  cases x <;> simp [Except.map]

theorem pure_ok_iff {a b : α} : (pure a : Except ε α) = .ok b ↔ b = a := by
  simp [pure, Except.pure, eq_comm]

theorem exists_ok {x : Except ε α} {p : α → Bool} (h : x.toOption.any p = true) :
    ∃ a, x = .ok a ∧ p a = true := by
  cases x with
  | error fault => cases h
  | ok a => exact ⟨a, rfl, h⟩

theorem ok_of_toOption {x : Except ε α} {a : α} (h : x.toOption = some a) : x = .ok a := by
  cases x with
  | error fault => cases h
  | ok b => exact congrArg _ (Option.some.inj h)

/-- The rule for loops that may fail: what every round keeps holds at the end, and a
failure comes from a round before which it was kept. -/
theorem foldlM_outcome {ε α β : Type} {step : β → α → Except ε β} {items : List α}
    (keeps : List α → β → Prop) (stuck : ε → Prop)
    (preserve : ∀ done item rest b, items = done ++ item :: rest → keeps done b →
      (∀ b', step b item = .ok b' → keeps (done ++ [item]) b') ∧
        ∀ fault, step b item = .error fault → stuck fault)
    {first : β} (start : keeps [] first) :
    (∀ last, items.foldlM step first = .ok last → keeps items last) ∧
      ∀ fault, items.foldlM step first = .error fault → stuck fault := by
  have through : ∀ rest done b, items = done ++ rest → keeps done b →
      (∀ last, rest.foldlM step b = .ok last → keeps items last) ∧
        ∀ fault, rest.foldlM step b = .error fault → stuck fault := by
    intro rest
    induction rest with
    | nil =>
      intro done b split kept
      rw [List.append_nil] at split
      constructor
      · intro last h
        rw [pure_ok_iff.mp h, split]
        exact kept
      · intro fault h
        cases h
    | cons item rest ih =>
      intro done b split kept
      obtain ⟨goesOn, stops⟩ := preserve done item rest b split kept
      rw [List.foldlM_cons]
      cases stepped : step b item with
      | error fault =>
        constructor
        · intro last h
          cases h
        · intro fault' h
          cases h
          exact stops fault stepped
      | ok b' => exact ih (done ++ [item]) b' (by simp [split]) (goesOn b' stepped)
  exact through items [] first rfl start

theorem foldlM_ok_keeps {ε α β : Type} {step : β → α → Except ε β} {items : List α}
    (keeps : List α → β → Prop)
    (preserve : ∀ done item rest b b', items = done ++ item :: rest → keeps done b →
      step b item = .ok b' → keeps (done ++ [item]) b')
    {first last : β} (start : keeps [] first) (h : items.foldlM step first = .ok last) :
    keeps items last := by
  refine (foldlM_outcome keeps (fun _ => True) (fun done item rest b split kept => ?_) start).1 last h
  exact ⟨fun b' stepped => preserve done item rest b b' split kept stepped, fun _ _ => trivial⟩

/-- A loop whose rounds all go well. -/
theorem foldlM_total {ε α β : Type} {step : β → α → Except ε β}
    (total : ∀ b item, ∃ b', step b item = .ok b') (items : List α) (first : β) :
    ∃ last, items.foldlM step first = .ok last := by
  induction items generalizing first with
  | nil => exact ⟨first, rfl⟩
  | cons item rest ih =>
    obtain ⟨next, stepped⟩ := total first item
    obtain ⟨last, ended⟩ := ih next
    refine ⟨last, ?_⟩
    rw [List.foldlM_cons, stepped]
    exact ended

/-- What is related item by item has a partner for each item. -/
theorem exists_of_forall₂ {α β : Type} {rel : α → β → Prop} {items : List α} {results : List β}
    (each : List.Forall₂ rel items results) {item : α} (member : item ∈ items) :
    ∃ result ∈ results, rel item result := by
  induction each with
  | nil => cases member
  | @cons first result rest later here _ ih =>
    rcases List.mem_cons.mp member with rfl | member
    · exact ⟨result, List.mem_cons_self, here⟩
    · obtain ⟨other, inside, holds⟩ := ih member
      exact ⟨other, List.mem_cons_of_mem _ inside, holds⟩

theorem exists_forall₂ {α β : Type} {rel : α → β → Prop} {items : List α}
    (each : ∀ item ∈ items, ∃ result, rel item result) : ∃ results, List.Forall₂ rel items results := by
  induction items with
  | nil => exact ⟨[], .nil⟩
  | cons item rest ih =>
    obtain ⟨⟨result, here⟩, later⟩ := List.forall_mem_cons.mp each
    obtain ⟨results, later⟩ := ih later
    exact ⟨result :: results, .cons here later⟩

/-- A list of results is that of a loop if each item gives the result at its place. -/
theorem mapM_ok_iff {ε α β : Type} {f : α → Except ε β} {items : List α} {results : List β} :
    items.mapM f = .ok results ↔ List.Forall₂ (fun item result => f item = .ok result) items results := by
  induction items generalizing results with
  | nil =>
    rw [List.mapM_nil, pure_ok_iff, List.forall₂_nil_left_iff]
  | cons item rest ih =>
    rw [List.mapM_cons, bind_ok_iff, List.forall₂_cons_left_iff]
    refine exists_congr fun result => ?_
    rw [bind_ok_iff]
    simp only [pure_ok_iff, ih]
    constructor
    · rintro ⟨here, others, later, rfl⟩
      exact ⟨others, here, later, rfl⟩
    · rintro ⟨others, here, later, rfl⟩
      exact ⟨here, others, later, rfl⟩

/-- A loop over items fails with the failure of one of them. -/
theorem exists_mapM_error {ε α β : Type} {f : α → Except ε β} {items : List α} {fault : ε}
    (h : items.mapM f = .error fault) : ∃ item ∈ items, f item = .error fault := by
  induction items with
  | nil => cases h
  | cons item rest ih =>
    rw [List.mapM_cons] at h
    rcases bind_error_iff.mp h with here | ⟨result, -, h⟩
    · exact ⟨item, List.mem_cons_self, here⟩
    rcases bind_error_iff.mp h with later | ⟨results, -, h⟩
    · obtain ⟨other, member, failed⟩ := ih later
      exact ⟨other, List.mem_cons_of_mem _ member, failed⟩
    · cases h

/-- A loop over items fails with the failure of the first one that fails. -/
theorem mapM_error_iff {ε α β : Type} {f : α → Except ε β} {items : List α} {fault : ε} :
    items.mapM f = .error fault ↔ ∃ before item after, items = before ++ item :: after ∧
      (∀ earlier ∈ before, ∃ result, f earlier = .ok result) ∧ f item = .error fault := by
  constructor
  · intro failed
    induction items with
    | nil => cases failed
    | cons first rest ih =>
      rw [List.mapM_cons] at failed
      rcases bind_error_iff.mp failed with here | ⟨result, went, failed⟩
      · exact ⟨[], first, rest, rfl, List.forall_mem_nil _, here⟩
      rcases bind_error_iff.mp failed with later | ⟨results, -, failed⟩
      · obtain ⟨before, item, after, rfl, earlier, failed⟩ := ih later
        exact ⟨first :: before, item, after, rfl, List.forall_mem_cons.mpr ⟨⟨result, went⟩, earlier⟩, failed⟩
      · cases failed
  · rintro ⟨before, item, after, rfl, earlier, failed⟩
    obtain ⟨results, went⟩ := exists_forall₂ earlier
    rw [List.mapM_append, mapM_ok_iff.mpr went, List.mapM_cons, failed]
    rfl

section Results

variable {ε α β γ : Type} {f : α → Except ε β} {items : List α} {results : List β}

theorem mem_mapM_ok (h : items.mapM f = .ok results) {result : β} :
    result ∈ results ↔ ∃ item ∈ items, f item = .ok result := by
  have each := mapM_ok_iff.mp h
  clear h
  induction each with
  | nil => simp
  | cons here _ ih => simp [ih, here, eq_comm]

theorem exists_mapM_ok (h : items.mapM f = .ok results) {item : α} (member : item ∈ items) :
    ∃ result ∈ results, f item = .ok result := exists_of_forall₂ (mapM_ok_iff.mp h) member

/-- What each item has in common with its result, in the order of the items. -/
theorem map_mapM_ok {left : β → γ} {right : α → γ}
    (same : ∀ item result, f item = .ok result → left result = right item)
    (h : items.mapM f = .ok results) : results.map left = items.map right := by
  have each := mapM_ok_iff.mp h
  clear h
  induction each with
  | nil => rfl
  | cons here _ ih => rw [List.map_cons, List.map_cons, ih, same _ _ here]

end Results

section Checks

variable {ε α : Type} {check : α → Except ε Unit} {items : List α}

/-- Items that pass leave the loop to those behind them. -/
theorem forM_append_of_ok {before : List α} (passes : ∀ item ∈ before, check item = .ok ())
    (after : List α) : (before ++ after).forM check = after.forM check := by
  induction before with
  | nil => rfl
  | cons item rest ih =>
    obtain ⟨here, later⟩ := List.forall_mem_cons.mp passes
    rw [List.cons_append, List.forM, here]
    exact ih later

theorem forM_ok (passes : ∀ item ∈ items, check item = .ok ()) : items.forM check = .ok () := by
  rw [← List.append_nil items, forM_append_of_ok passes]
  rfl

/-- The first item that does not pass decides. -/
theorem forM_error_iff {fault : ε} : items.forM check = .error fault ↔
    ∃ before item after, items = before ++ item :: after ∧
      (∀ earlier ∈ before, check earlier = .ok ()) ∧ check item = .error fault := by
  constructor
  · intro failed
    induction items with
    | nil => cases failed
    | cons first rest ih =>
      rcases bind_error_iff.mp failed with here | ⟨_, passed, later⟩
      · exact ⟨[], first, rest, rfl, List.forall_mem_nil _, here⟩
      · obtain ⟨before, item, after, rfl, earlier, here⟩ := ih later
        exact ⟨first :: before, item, after, rfl, List.forall_mem_cons.mpr ⟨passed, earlier⟩, here⟩
  · rintro ⟨before, item, after, rfl, earlier, failed⟩
    rw [forM_append_of_ok earlier]
    exact bind_error_iff.mpr (.inl failed)

theorem exists_forM_error {fault : ε} (failed : items.forM check = .error fault) :
    ∃ item ∈ items, check item = .error fault := by
  obtain ⟨before, item, after, rfl, -, here⟩ := forM_error_iff.mp failed
  exact ⟨item, List.mem_append_right _ List.mem_cons_self, here⟩

theorem forM_passes {done : Unit} (passed : items.forM check = .ok done) :
    ∀ item ∈ items, check item = .ok () := by
  induction items with
  | nil => simp
  | cons item rest ih =>
    obtain ⟨_, here, later⟩ := bind_ok_iff.mp passed
    exact List.forall_mem_cons.mpr ⟨here, ih later⟩

end Checks

/-- A loop whose items are all read. -/
theorem exists_mapM_some {α β : Type} {read : α → Option β} {items : List α}
    (each : ∀ item ∈ items, ∃ b, read item = some b) : ∃ results, items.mapM read = some results := by
  induction items with
  | nil => exact ⟨[], rfl⟩
  | cons item rest ih =>
    obtain ⟨⟨result, here⟩, later⟩ := List.forall_mem_cons.mp each
    obtain ⟨results, later⟩ := ih later
    exact ⟨result :: results, by rw [List.mapM_cons, here, later]; rfl⟩

/-! ### Loops with the same steps -/

/-- A loop inside a loop is one loop over the items of both. -/
theorem foldlM_flatMap {α β γ : Type} {m : Type → Type} [Monad m] [LawfulMonad m]
    (parts : α → List γ) (f : β → γ → m β) (items : List α) (first : β) :
    (items.flatMap parts).foldlM f first =
      items.foldlM (fun b item => (parts item).foldlM f b) first := by
  induction items generalizing first with
  | nil => rfl
  | cons item rest ih =>
    rw [List.flatMap_cons, List.foldlM_append, List.foldlM_cons]
    exact bind_congr fun next => ih next

theorem foldlM_congr {α β : Type} {m : Type → Type} [Monad m] {f g : β → α → m β} {items : List α}
    (same : ∀ item ∈ items, ∀ b, f b item = g b item) (first : β) :
    items.foldlM f first = items.foldlM g first := by
  induction items generalizing first with
  | nil => rfl
  | cons item rest ih =>
    obtain ⟨here, later⟩ := List.forall_mem_cons.mp same
    rw [List.foldlM_cons, List.foldlM_cons, here]
    exact bind_congr fun next => ih later next

theorem mapM_congr {α β : Type} {m : Type → Type} [Monad m] [LawfulMonad m] {f g : α → m β}
    {items : List α} (same : ∀ item ∈ items, f item = g item) : items.mapM f = items.mapM g := by
  induction items with
  | nil => rfl
  | cons item rest ih =>
    obtain ⟨here, later⟩ := List.forall_mem_cons.mp same
    rw [List.mapM_cons, List.mapM_cons, here, ih later]

end TaskPlan
