/-!
# Classes of code points as runs

A class of code points is written as the lengths of the runs outside and inside
it in turn, from code point 0 on and starting outside.
-/

namespace TaskPlan

namespace Text

/-- Whether code point `n`, counted from the start of the first run, is inside. -/
def inRuns : List Nat → Nat → Bool
  | outside :: inside :: rest, n =>
    if n < outside then false
    else if n < outside + inside then true
    else inRuns rest (n - (outside + inside))
  | _, _ => false

/-- The ranges of a class given as runs, each with its first and last code point;
`start` is where the first run starts. -/
def rangesOfRuns : (runs : List Nat) → (start : Nat) → List (Nat × Nat)
  | outside :: inside :: rest, start =>
    (start + outside, start + outside + inside - 1) ::
      rangesOfRuns rest (start + outside + inside)
  | _, _ => []

end Text

end TaskPlan
