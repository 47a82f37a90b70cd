/-!
# Finite sets in ascending order

`SortedSet α` keeps the members of a finite set as a strictly ascending list, so
that equal sets are equal values (`SortedSet.ext_mem`). `mem_insert`,
`mem_ofList` and `mem_filter` say what each operation does to the members.
-/

namespace TaskPlan

open Std

structure SortedSet (α : Type u) [Ord α] where
  toList : List α
  ascending : toList.Pairwise (fun a b => compare a b = .lt)

namespace SortedSet

variable {α : Type u} [Ord α]

instance [DecidableEq α] : DecidableEq (SortedSet α) := fun s t =>
  decidable_of_iff (s.toList = t.toList) ⟨fun h => by cases s; cases t; simp_all, fun h => h ▸ rfl⟩

instance : Membership α (SortedSet α) := ⟨fun s a => a ∈ s.toList⟩

instance [DecidableEq α] (a : α) (s : SortedSet α) : Decidable (a ∈ s) :=
  inferInstanceAs (Decidable (a ∈ s.toList))

theorem mem_toList {a : α} {s : SortedSet α} : a ∈ s.toList ↔ a ∈ s := Iff.rfl

def empty : SortedSet α := ⟨[], .nil⟩

instance : Inhabited (SortedSet α) := ⟨empty⟩

@[simp] theorem not_mem_empty (a : α) : ¬ a ∈ (empty : SortedSet α) := List.not_mem_nil

/-- The place of `a` in an ascending list is before the first greater member. -/
def place (a : α) : List α → List α
  | [] => [a]
  | b :: rest =>
    match compare a b with
    | .lt => a :: b :: rest
    | .eq => a :: rest
    | .gt => b :: place a rest

section Lawful

variable [LawfulEqOrd α]

theorem mem_place {a b : α} {members : List α} :
    b ∈ place a members ↔ b = a ∨ b ∈ members := by
  induction members with
  | nil => simp [place]
  | cons c rest ih =>
    simp only [place]
    split
    · simp
    · rename_i same
      have : a = c := LawfulEqOrd.eq_of_compare same
      subst this
      simp
    · simp only [List.mem_cons, ih]
      constructor <;> rintro (h | h | h) <;> simp [h]

variable [TransOrd α]

theorem place_ascending (a : α) {members : List α}
    (ascending : members.Pairwise (fun a b => compare a b = .lt)) :
    (place a members).Pairwise (fun a b => compare a b = .lt) := by
  induction members with
  | nil => simp [place]
  | cons c rest ih =>
    obtain ⟨first, later⟩ := List.pairwise_cons.mp ascending
    simp only [place]
    split
    · rename_i less
      refine List.pairwise_cons.mpr ⟨?_, ascending⟩
      intro b member
      rcases List.mem_cons.mp member with rfl | member
      · exact less
      · exact TransCmp.lt_trans less (first b member)
    · rename_i same
      have : a = c := LawfulEqOrd.eq_of_compare same
      subst this
      exact ascending
    · rename_i greater
      refine List.pairwise_cons.mpr ⟨?_, ih later⟩
      intro b member
      rcases mem_place.mp member with rfl | member
      · exact OrientedCmp.gt_iff_lt.mp greater
      · exact first b member

def insert (s : SortedSet α) (a : α) : SortedSet α :=
  ⟨place a s.toList, place_ascending a s.ascending⟩

theorem mem_insert {s : SortedSet α} {a b : α} : b ∈ s.insert a ↔ b = a ∨ b ∈ s := mem_place

def ofList (members : List α) : SortedSet α := members.foldl insert empty

theorem mem_foldl_insert {members : List α} {s : SortedSet α} {a : α} :
    a ∈ members.foldl insert s ↔ a ∈ members ∨ a ∈ s := by
  induction members generalizing s with
  | nil => simp
  | cons b rest ih => simp [ih, mem_insert, or_left_comm, or_assoc]

@[simp] theorem mem_ofList {members : List α} {a : α} : a ∈ ofList members ↔ a ∈ members := by
  simp [ofList, mem_foldl_insert]

theorem eq_of_mem_iff {l m : List α} (hl : l.Pairwise (fun a b => compare a b = .lt))
    (hm : m.Pairwise (fun a b => compare a b = .lt)) (h : ∀ a, a ∈ l ↔ a ∈ m) : l = m := by
  induction l generalizing m with
  | nil =>
    cases m with
    | nil => rfl
    | cons b rest => exact absurd ((h b).mpr List.mem_cons_self) List.not_mem_nil
  | cons a l ih =>
    cases m with
    | nil => exact absurd ((h a).mp List.mem_cons_self) List.not_mem_nil
    | cons b m =>
      obtain ⟨firstL, laterL⟩ := List.pairwise_cons.mp hl
      obtain ⟨firstM, laterM⟩ := List.pairwise_cons.mp hm
      have same : a = b := by
        rcases List.mem_cons.mp ((h a).mp List.mem_cons_self) with eq | inM
        · exact eq
        · rcases List.mem_cons.mp ((h b).mpr List.mem_cons_self) with eq | inL
          · exact eq.symm
          · have := TransCmp.lt_trans (firstL b inL) (firstM a inM)
            simp [ReflCmp.compare_self] at this
      subst same
      refine congrArg (a :: ·) (ih laterL laterM fun c => ?_)
      have := h c
      simp only [List.mem_cons] at this
      constructor
      · intro inL
        rcases this.mp (.inr inL) with rfl | inM
        · have := firstL c inL
          simp [ReflCmp.compare_self] at this
        · exact inM
      · intro inM
        rcases this.mpr (.inr inM) with rfl | inL
        · have := firstM c inM
          simp [ReflCmp.compare_self] at this
        · exact inL

theorem ext_mem {s t : SortedSet α} (h : ∀ a, a ∈ s ↔ a ∈ t) : s = t := by
  cases s with
  | mk l hl =>
    cases t with
    | mk m hm =>
      have : l = m := eq_of_mem_iff hl hm h
      subst this
      rfl

end Lawful

def filter (p : α → Bool) (s : SortedSet α) : SortedSet α :=
  ⟨s.toList.filter p, s.ascending.filter p⟩

@[simp] theorem mem_filter {p : α → Bool} {s : SortedSet α} {a : α} :
    a ∈ s.filter p ↔ a ∈ s ∧ p a = true := List.mem_filter

def size (s : SortedSet α) : Nat := s.toList.length

end SortedSet

end TaskPlan
