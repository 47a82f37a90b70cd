import Mathlib
import TaskPlan.Text.Blank

/-!
# Runs of characters

A run at the start of a text ends where the text stops to satisfy a predicate. A text that
is put together from a run and one that does not go on with it falls apart into these again
(`run_append`, `span_eq_iff`). Digits, letters and blanks exclude each other, so a run of one
class stops where one of another begins.
-/

namespace TaskPlan

namespace Text

variable {p q : Char → Bool} {s run rest : List Char} {c : Char}

/-- No character that satisfies `p` comes first in the text. -/
def Stops (p : Char → Bool) (s : List Char) : Prop := ∀ c ∈ s.head?, p c = false

theorem stops_nil : Stops p [] := nofun

theorem stops_cons : Stops p (c :: s) ↔ p c = false := by simp [Stops]

theorem stops_of_run (apart : ∀ c, q c = true → p c = false) (run : ∀ c ∈ s, q c = true) : Stops p s :=
  fun c first => apart c (run c (List.mem_of_mem_head? first))

theorem Stops.append (here : Stops p s) (later : s = [] → Stops p rest) : Stops p (s ++ rest) := by
  cases s with
  | nil => exact later rfl
  | cons c s => exact here

theorem run_append (inside : ∀ c ∈ run, p c = true) (stops : Stops p rest) :
    (run ++ rest).takeWhile p = run ∧ (run ++ rest).dropWhile p = rest := by
  rw [List.takeWhile_append_of_pos inside, List.dropWhile_append_of_pos inside]
  cases rest with
  | nil => simp
  | cons c rest => simp [stops_cons.mp stops]

theorem stops_dropWhile (p : Char → Bool) (s : List Char) : Stops p (s.dropWhile p) := by
  intro c first
  have ends := List.head?_dropWhile_not p s
  rw [first] at ends
  exact ends

theorem span_eq_iff : s.span p = (run, rest) ↔ s = run ++ rest ∧ (∀ c ∈ run, p c = true) ∧ Stops p rest := by
  rw [List.span_eq_takeWhile_dropWhile, Prod.mk.injEq]
  constructor
  · rintro ⟨rfl, rfl⟩
    exact ⟨List.takeWhile_append_dropWhile.symm, fun _ => List.mem_takeWhile_imp, stops_dropWhile p s⟩
  · rintro ⟨rfl, inside, stops⟩
    exact run_append inside stops

theorem exists_gap (s : List Char) : ∃ gap, (∀ c ∈ gap, isBlank c = true) ∧ s = gap ++ dropBlanks s :=
  ⟨s.takeWhile isBlank, fun _ => List.mem_takeWhile_imp, List.takeWhile_append_dropWhile.symm⟩

/-! ### Classes that exclude each other -/

theorem apart_symm (apart : ∀ c, p c = true → q c = false) (c : Char) (other : q c = true) : p c = false := by
  refine Bool.eq_false_iff.mpr fun here => ?_
  rw [apart c here] at other
  cases other

theorem isDigit_iff : c.isDigit = true ↔ 48 ≤ c.toNat ∧ c.toNat ≤ 57 := by
  simp [Char.isDigit, UInt32.le_iff_toNat_le, ← Char.toNat_val]

theorem isAlpha_iff :
    c.isAlpha = true ↔ 65 ≤ c.toNat ∧ c.toNat ≤ 90 ∨ 97 ≤ c.toNat ∧ c.toNat ≤ 122 := by
  simp [Char.isAlpha, Char.isUpper, Char.isLower, UInt32.le_iff_toNat_le, ← Char.toNat_val]

theorem isAlpha_of_isDigit (c : Char) (digit : c.isDigit = true) : c.isAlpha = false := by
  rw [isDigit_iff] at digit
  rw [Bool.eq_false_iff, Ne, isAlpha_iff]
  omega

theorem isBlank_of_isDigit (c : Char) (digit : c.isDigit = true) : isBlank c = false := by
  rw [isDigit_iff] at digit
  simp [isBlank]
  omega

theorem isBlank_of_isAlpha (c : Char) (letter : c.isAlpha = true) : isBlank c = false := by
  rw [isAlpha_iff] at letter
  simp [isBlank]
  omega

end Text

end TaskPlan
