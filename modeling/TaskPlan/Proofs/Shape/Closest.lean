import TaskPlan.Proofs.Shape.Conforms

/-!
# The closest alternative

If a value conforms to none of several alternatives, one of them is chosen whose report counts.
Only records are compared, and only for mappings: a record whose literal fields are there is
closer than one of which this does not hold, and else the one with fewer violations is. The
first of the closest records is chosen (`Closest`), and its report is that of all alternatives
(`report_closest`). Without one there is a single violation for all of them (`report_unranked`).
-/

namespace TaskPlan

namespace Shape

/-- The violations that a shape alone finds in a value. -/
def report (shape : Shape) (path : String) (value : Json) : List Violation := (check shape path value).violations

def isRecord : Shape → Bool
  | .record _ _ => true
  | _ => false

/-- The record has literal fields, and the mapping has all of them with exactly their values. -/
def Tagged (entries : Fields) : Shape → Prop
  | .record fields _ => (∃ field ∈ fields, ∃ expected, field.shape = .literal expected) ∧
      ∀ field ∈ fields, ∀ expected, field.shape = .literal expected →
        ∃ value, entries.get? field.name = some value ∧ value.same expected = true
  | _ => False

/-- One shape is closer to a mapping than another: it is tagged and the other is not, or they
do not differ in that and it finds fewer violations. -/
def Closer (path : String) (entries : Fields) (shape other : Shape) : Prop :=
  Tagged entries shape ∧ ¬ Tagged entries other ∨
    (Tagged entries shape ↔ Tagged entries other) ∧
      (shape.report path (.obj entries)).length < (other.report path (.obj entries)).length

/-- The first of the records that are closest to a mapping: it is closer than those before it,
and none after it is closer. -/
def Closest (path : String) (entries : Fields) (alternatives : List Shape) (closest : Shape) : Prop :=
  ∃ before after, alternatives = before ++ closest :: after ∧ closest.isRecord = true ∧
    (∀ other ∈ before, other.isRecord = true → Closer path entries closest other) ∧
    ∀ other ∈ after, other.isRecord = true → ¬ Closer path entries other closest

variable {path : String} {value : Json} {entries : Fields} {fields : List Field} {isOpen : Bool}
  {alternatives : List Shape} {shape : Shape}

/-! ### Ranks -/

theorem rankLess_iff {a b : Bool × Nat} :
    rankLess a b = true ↔ a.1 = false ∧ b.1 = true ∨ a.1 = b.1 ∧ a.2 < b.2 := by
  simp [rankLess]

theorem rankLess_trans {a b c : Bool × Nat} (first : rankLess a b = true) (second : rankLess b c = true) :
    rankLess a c = true := by
  rw [rankLess_iff] at first second ⊢
  grind

theorem rankLess_of_not {a b c : Bool × Nat} (first : rankLess a b = true) (second : rankLess c b = false) :
    rankLess a c = true := by
  rw [← Bool.not_eq_true, rankLess_iff] at second
  rw [rankLess_iff] at first ⊢
  grind

/-- The outcome is the first one of least rank. -/
def FirstLeast (value : Json) (outcomes : List (Shape × Checked)) (rank : Bool × Nat) (checked : Checked) :
    Prop :=
  ∃ before alternative after, outcomes = before ++ (alternative, checked) :: after ∧
    rank? alternative value checked = some rank ∧
    (∀ outcome ∈ before, ∀ other, rank? outcome.1 value outcome.2 = some other → rankLess rank other = true) ∧
    ∀ outcome ∈ after, ∀ other, rank? outcome.1 value outcome.2 = some other → rankLess other rank = false

section Append

variable {outcomes : List (Shape × Checked)} {alternative : Shape} {checked best : Checked} {rank least : Bool × Nat}

theorem firstLeast_only (unranked : ∀ outcome ∈ outcomes, rank? outcome.1 value outcome.2 = none)
    (ranked : rank? alternative value checked = some rank) :
    FirstLeast value (outcomes ++ [(alternative, checked)]) rank checked := by
  refine ⟨outcomes, alternative, [], rfl, ranked, fun outcome member other isRank => ?_, List.forall_mem_nil _⟩
  rw [unranked outcome member] at isRank
  cases isRank

theorem FirstLeast.append (first : FirstLeast value outcomes least best)
    (notLess : ∀ rank, rank? alternative value checked = some rank → rankLess rank least = false) :
    FirstLeast value (outcomes ++ [(alternative, checked)]) least best := by
  obtain ⟨before, shape, after, rfl, own, earlier, later⟩ := first
  refine ⟨before, shape, after ++ [(alternative, checked)], by simp, own, earlier, ?_⟩
  intro outcome member other isRank
  rcases List.mem_append.mp member with member | member
  · exact later outcome member other isRank
  · cases List.mem_singleton.mp member
    exact notLess other isRank

theorem FirstLeast.replace (first : FirstLeast value outcomes least best)
    (ranked : rank? alternative value checked = some rank) (less : rankLess rank least = true) :
    FirstLeast value (outcomes ++ [(alternative, checked)]) rank checked := by
  obtain ⟨before, shape, after, rfl, own, earlier, later⟩ := first
  refine ⟨_, alternative, [], rfl, ranked, ?_, List.forall_mem_nil _⟩
  intro outcome member other isRank
  rcases List.mem_append.mp member with member | member
  · exact rankLess_trans less (earlier outcome member other isRank)
  · rcases List.mem_cons.mp member with rfl | member
    · rw [own] at isRank
      cases isRank
      exact less
    · exact rankLess_of_not less (later outcome member other isRank)

theorem closest?_append :
    closest? value (outcomes ++ [(alternative, checked)]) =
      match rank? alternative value checked with
      | none => closest? value outcomes
      | some rank =>
        match closest? value outcomes with
        | none => some (rank, checked)
        | some (least, best) => if rankLess rank least then some (rank, checked) else some (least, best) := by
  rw [closest?, List.foldl_append, List.foldl_cons, List.foldl_nil, ← closest?]
  dsimp only
  cases rank? alternative value checked with
  | none => rfl
  | some rank => cases closest? value outcomes <;> rfl

end Append

/-- One more outcome is chosen only if its rank is less, so that of equal ones the first stays. -/
theorem closest?_spec (outcomes : List (Shape × Checked)) :
    (closest? value outcomes = none ∧ ∀ outcome ∈ outcomes, rank? outcome.1 value outcome.2 = none) ∨
      ∃ rank checked, closest? value outcomes = some (rank, checked) ∧
        FirstLeast value outcomes rank checked := by
  induction outcomes using List.reverseRecOn with
  | nil => exact .inl ⟨rfl, List.forall_mem_nil _⟩
  | append_singleton outcomes outcome ih =>
    obtain ⟨alternative, checked⟩ := outcome
    rw [closest?_append]
    cases ranked : rank? alternative value checked with
    | none =>
      rcases ih with ⟨nothing, unranked⟩ | ⟨least, best, found, first⟩
      · refine .inl ⟨nothing, fun outcome member => ?_⟩
        rcases List.mem_append.mp member with member | member
        · exact unranked outcome member
        · rwa [List.mem_singleton.mp member]
      · exact .inr ⟨least, best, found, first.append (by simp [ranked])⟩
    | some rank =>
      rcases ih with ⟨nothing, unranked⟩ | ⟨least, best, found, first⟩
      · exact .inr ⟨rank, checked, by rw [nothing], firstLeast_only unranked ranked⟩
      · rw [found]
        cases less : rankLess rank least with
        | true => exact .inr ⟨rank, checked, by simp [less], first.replace ranked less⟩
        | false => exact .inr ⟨least, best, by simp [less], first.append (by simp [ranked, less])⟩

/-! ### Alternatives that are all refused -/

theorem mem_tags {name : String} {expected : Json} :
    (name, expected) ∈ tags fields ↔ ∃ field ∈ fields, field.shape = .literal expected ∧ field.name = name := by
  rw [tags, List.mem_filterMap]
  constructor
  · rintro ⟨field, member, tag⟩
    split at tag
    · rename_i shape
      cases tag
      exact ⟨field, member, shape, rfl⟩
    · cases tag
  · rintro ⟨field, member, shape, rfl⟩
    exact ⟨field, member, by rw [shape]⟩

theorem tagMatches_iff : tagMatches fields entries = true ↔ Tagged entries (.record fields isOpen) := by
  rw [tagMatches, Bool.and_eq_true, List.all_eq_true, Bool.not_eq_true', List.isEmpty_eq_false_iff_exists_mem]
  refine and_congr ?_ ?_
  · constructor
    · rintro ⟨⟨name, expected⟩, tag⟩
      obtain ⟨field, member, shape, -⟩ := mem_tags.mp tag
      exact ⟨field, member, expected, shape⟩
    · rintro ⟨field, member, expected, shape⟩
      exact ⟨(field.name, expected), mem_tags.mpr ⟨field, member, shape, rfl⟩⟩
  · constructor
    · intro each field member expected shape
      have here := each (field.name, expected) (mem_tags.mpr ⟨field, member, shape, rfl⟩)
      dsimp only at here
      split at here
      · rename_i value found
        exact ⟨value, found, here⟩
      · cases here
    · rintro each ⟨name, expected⟩ tag
      obtain ⟨field, member, shape, rfl⟩ := mem_tags.mp tag
      obtain ⟨value, found, same⟩ := each field member expected shape
      simp [found, same]

theorem rank?_eq_none {checked : Checked} (unranked : shape.isRecord = false ∨ ∀ entries, value ≠ .obj entries) :
    rank? shape value checked = none := by
  unfold rank?
  split
  · rcases unranked with other | other
    · cases other
    · exact absurd rfl (other _)
  · rfl

theorem exists_rank (path : String) (entries : Fields) (record : shape.isRecord = true) :
    ∃ tagged : Bool, (tagged = true ↔ Tagged entries shape) ∧
      rank? shape (.obj entries) (check shape path (.obj entries)) =
        some (!tagged, (shape.report path (.obj entries)).length) := by
  unfold isRecord at record
  split at record
  · exact ⟨_, tagMatches_iff, rfl⟩
  · cases record

/-- The order of ranks is that of closeness. -/
theorem rankLess_iff_closer {other : Shape} (record : shape.isRecord = true)
    (otherRecord : other.isRecord = true) {rank otherRank : Bool × Nat}
    (ranked : rank? shape (.obj entries) (check shape path (.obj entries)) = some rank)
    (otherRanked : rank? other (.obj entries) (check other path (.obj entries)) = some otherRank) :
    rankLess rank otherRank = true ↔ Closer path entries shape other := by
  obtain ⟨tagged, tagged_iff, own⟩ := exists_rank path entries record
  obtain ⟨otherTagged, otherTagged_iff, otherOwn⟩ := exists_rank path entries otherRecord
  rw [own] at ranked
  rw [otherOwn] at otherRanked
  cases ranked
  cases otherRanked
  rw [rankLess_iff, Closer, ← tagged_iff, ← otherTagged_iff]
  cases tagged <;> cases otherTagged <;> simp

theorem closest_of_firstLeast {rank : Bool × Nat} {checked : Checked}
    (first : FirstLeast (.obj entries) (outcomes alternatives path (.obj entries)) rank checked) :
    ∃ closest, Closest path entries alternatives closest ∧ checked = check closest path (.obj entries) := by
  obtain ⟨before, closest, after, split, own, earlier, later⟩ := first
  rw [outcomes_eq_map] at split
  obtain ⟨front, rest, rfl, rfl, others⟩ := List.map_eq_append_iff.mp split
  obtain ⟨shape, back, rfl, same, rfl⟩ := List.map_eq_cons_iff.mp others
  cases same
  have record : closest.isRecord = true := by
    by_contra other
    rw [rank?_eq_none (.inl (Bool.eq_false_iff.mpr other))] at own
    cases own
  refine ⟨closest, ⟨front, back, rfl, record, fun other member otherRecord => ?_,
    fun other member otherRecord closer => ?_⟩, rfl⟩
  · obtain ⟨_, -, ranked⟩ := exists_rank path entries otherRecord
    have less := earlier _ (List.mem_map.mpr ⟨other, member, rfl⟩) _ ranked
    exact (rankLess_iff_closer record otherRecord own ranked).mp less
  · obtain ⟨_, -, ranked⟩ := exists_rank path entries otherRecord
    have notLess := later _ (List.mem_map.mpr ⟨other, member, rfl⟩) _ ranked
    rw [(rankLess_iff_closer otherRecord record ranked own).mpr closer] at notLess
    cases notLess

/-! ### Reports of refused values -/

/-- What is reported of a value that no alternative accepts. -/
theorem report_refused (refused : ∀ shape ∈ alternatives, ¬ Conforms shape value) :
    report (.oneOf alternatives) path value =
      match closest? value (outcomes alternatives path value) with
      | some (_, checked) => checked.violations
      | none => [⟨path, "value " ++ value.text ++ " does not match " ++ describe (.oneOf alternatives)⟩] := by
  have none : (outcomes alternatives path value).find? (fun outcome => outcome.2.fits) = none := by
    rw [outcomes_eq_map]
    refine List.find?_eq_none.mpr fun outcome member fits => ?_
    obtain ⟨shape, alternative, rfl⟩ := List.mem_map.mp member
    exact refused shape alternative (conforms_iff.mpr ⟨_, check_ok_iff.mp (Checked.fits_iff.mp fits)⟩)
  rw [report, check, select, none]
  cases closest? value (outcomes alternatives path value) <;> rfl

theorem Closest.unique {closest other : Shape} (here : Closest path entries alternatives closest)
    (there : Closest path entries alternatives other) : closest = other := by
  obtain ⟨before, after, rfl, record, earlier, later⟩ := here
  obtain ⟨front, back, split, otherRecord, otherEarlier, otherLater⟩ := there
  rcases List.append_eq_append_iff.mp split with ⟨more, rfl, rest⟩ | ⟨more, rfl, rest⟩
  · cases more with
    | nil => exact (List.cons.inj rest).1
    | cons first more =>
      obtain ⟨rfl, rfl⟩ := List.cons.inj rest
      exact absurd (otherEarlier closest (by simp) record) (later other (by simp) otherRecord)
  · cases more with
    | nil => exact (List.cons.inj rest).1.symm
    | cons first more =>
      obtain ⟨rfl, rfl⟩ := List.cons.inj rest
      exact absurd (earlier other (by simp) otherRecord) (otherLater closest (by simp) record)

/-- Of a refused mapping the report of the closest record is that of all alternatives. -/
theorem report_closest (refused : ∀ shape ∈ alternatives, ¬ Conforms shape (.obj entries)) {closest : Shape}
    (chosen : Closest path entries alternatives closest) :
    report (.oneOf alternatives) path (.obj entries) = report closest path (.obj entries) := by
  rw [report_refused refused]
  rcases @closest?_spec (.obj entries) (outcomes alternatives path (.obj entries)) with
    ⟨-, unranked⟩ | ⟨rank, checked, found, first⟩
  · obtain ⟨before, after, rfl, record, -⟩ := chosen
    obtain ⟨_, -, ranked⟩ := exists_rank path entries record
    rw [unranked (closest, _) (by simp [outcomes_eq_map])] at ranked
    cases ranked
  · obtain ⟨other, otherChosen, rfl⟩ := closest_of_firstLeast first
    rw [found, chosen.unique otherChosen]
    rfl

/-- If there is a record, there is a closest one. -/
theorem exists_closest (path : String) (entries : Fields)
    (record : ∃ shape ∈ alternatives, shape.isRecord = true) :
    ∃ closest, Closest path entries alternatives closest := by
  rcases @closest?_spec (.obj entries) (outcomes alternatives path (.obj entries)) with
    ⟨-, unranked⟩ | ⟨rank, checked, found, first⟩
  · obtain ⟨shape, member, record⟩ := record
    obtain ⟨_, -, ranked⟩ := exists_rank path entries record
    rw [unranked (shape, check shape path (.obj entries))] at ranked
    · cases ranked
    · rw [outcomes_eq_map]
      exact List.mem_map.mpr ⟨shape, member, rfl⟩
  · obtain ⟨closest, chosen, -⟩ := closest_of_firstLeast first
    exact ⟨closest, chosen⟩

/-- Values that are no mappings, and alternatives without a record, have a single violation. -/
theorem report_unranked (refused : ∀ shape ∈ alternatives, ¬ Conforms shape value)
    (unranked : (∀ entries, value ≠ .obj entries) ∨ ∀ shape ∈ alternatives, shape.isRecord = false) :
    report (.oneOf alternatives) path value =
      [⟨path, "value " ++ value.text ++ " does not match " ++ describe (.oneOf alternatives)⟩] := by
  rw [report_refused refused]
  rcases closest?_spec (outcomes alternatives path value) with
    ⟨nothing, -⟩ | ⟨rank, checked, found, before, shape, after, split, ranked, -⟩
  · rw [nothing]
  · have member : (shape, checked) ∈ outcomes alternatives path value := by simp [split]
    rw [outcomes_eq_map] at member
    obtain ⟨_, alternative, same⟩ := List.mem_map.mp member
    cases same
    have none : rank? shape value (check shape path value) = none := by
      refine rank?_eq_none ?_
      rcases unranked with other | other
      · exact .inr other
      · exact .inl (other shape alternative)
    rw [none] at ranked
    cases ranked

end Shape

end TaskPlan
