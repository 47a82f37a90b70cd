import TaskPlan.Text.Blank
import TaskPlan.Text.Digits
import TaskPlan.Text.Split

/-!
# Relative times

An offset such as `1 day`, `2 weeks 3 hours` or `-30 minutes`: an optional sign and
then terms of an amount and a unit, with blanks wherever two of these meet. Months
have 30 days and years 365.

The text is scanned term by term. An amount has to fit a signed 64-bit word, as has
its product with the seconds of the unit, and the seconds of each term and of all terms
so far have to be in the range of offsets.
-/

namespace TaskPlan

namespace Offset

/-- The largest number of a signed 64-bit word. -/
def maxWord : Nat := 9223372036854775807

/-- The largest number of seconds of an offset: as many as fit 64 bits when counted
in milliseconds. -/
def maxSeconds : Nat := 9223372036854775

def upTo? (bound n : Nat) : Option Nat := if n ≤ bound then some n else none

def unitSeconds (name : String) : Option Nat :=
  if ["s", "sec", "secs", "second", "seconds"].contains name then some 1
  else if ["m", "min", "mins", "minute", "minutes"].contains name then some 60
  else if ["h", "hr", "hrs", "hour", "hours"].contains name then some 3600
  else if ["d", "day", "days"].contains name then some 86400
  else if ["w", "wk", "week", "weeks"].contains name then some (7 * 86400)
  else if ["mo", "month", "months"].contains name then some (30 * 86400)
  else if ["y", "yr", "yrs", "year", "years"].contains name then some (365 * 86400)
  else none

/-- The seconds of the unit with a name in letters of either case. -/
def unit? (letters : List Char) : Option Nat :=
  unitSeconds (String.ofList (letters.map Char.toLower))

def amount? (digits : List Char) : Option Nat :=
  if digits.isEmpty then none else upTo? maxWord (Text.decimalValue digits)

def product? (amount unit : Nat) : Option Nat :=
  (upTo? maxWord (amount * unit)).bind (upTo? maxSeconds)

/-- The seconds of the term that a text starts with, and the text after it. -/
def term? (s : List Char) : Option (Nat × List Char) := do
  let (digits, rest) ← Text.cut? (Text.runEnd Char.isDigit s) s
  let amount ← amount? digits
  let rest := Text.dropBlanks rest
  let (letters, rest) ← Text.cut? (Text.runEnd Char.isAlpha rest) rest
  let unit ← unit? letters
  let seconds ← product? amount unit
  return (seconds, Text.dropBlanks rest)

theorem term?_eq_some_iff {s rest : List Char} {seconds : Nat} :
    term? s = some (seconds, rest) ↔
      ∃ amount unit, amount? (s.takeWhile Char.isDigit) = some amount ∧
        unit? ((Text.dropBlanks (s.dropWhile Char.isDigit)).takeWhile Char.isAlpha) = some unit ∧
        product? amount unit = some seconds ∧
        Text.dropBlanks ((Text.dropBlanks (s.dropWhile Char.isDigit)).dropWhile Char.isAlpha) = rest := by
  simp only [term?, Text.cut?_runEnd, Option.bind_eq_bind, Option.bind_some, Option.bind_eq_some_iff,
    Option.pure_def, Option.some.injEq, Prod.mk.injEq]
  constructor
  · rintro ⟨amount, counted, unit, known, seconds, product, rfl, rest⟩
    exact ⟨amount, unit, counted, known, product, rest⟩
  · rintro ⟨amount, unit, counted, known, product, rest⟩
    exact ⟨amount, counted, unit, known, seconds, product, rfl, rest⟩

theorem length_lt_of_term? {s rest : List Char} {seconds : Nat} (read : term? s = some (seconds, rest)) :
    rest.length < s.length := by
  obtain ⟨amount, unit, counted, -, -, rfl⟩ := term?_eq_some_iff.mp read
  have someDigits : (s.takeWhile Char.isDigit).length ≠ 0 := by
    intro none
    rw [List.length_eq_zero_iff] at none
    simp [amount?, none] at counted
  have parts := congrArg List.length (List.takeWhile_append_dropWhile (p := Char.isDigit) (l := s))
  have shorter (p : Char → Bool) (l : List Char) : (l.dropWhile p).length ≤ l.length :=
    (List.dropWhile_sublist p).length_le
  have first := shorter Text.isBlank (s.dropWhile Char.isDigit)
  have second := shorter Char.isAlpha (Text.dropBlanks (s.dropWhile Char.isDigit))
  have third := shorter Text.isBlank
    ((Text.dropBlanks (s.dropWhile Char.isDigit)).dropWhile Char.isAlpha)
  rw [List.length_append] at parts
  simp only [Text.dropBlanks] at *
  omega

/-- The seconds of the terms that a text is made of, with those counted before. -/
def total? (counted : Nat) (s : List Char) : Option Nat :=
  if s.isEmpty then some counted
  else match _read : term? s with
    | none => none
    | some (seconds, rest) => (upTo? maxSeconds (counted + seconds)).bind fun counted => total? counted rest
termination_by s.length
decreasing_by exact length_lt_of_term? _read

/-- The seconds of an offset. There is at least one term, and their sum may not
exceed `maxSeconds`. -/
def seconds? (input : String) : Option Int :=
  let trimmed := Text.trimChars input.toList
  let (negative, body) := match trimmed with
    | '-' :: rest => (true, Text.dropBlanks rest)
    | _ => (false, trimmed)
  if body.isEmpty then none
  else (total? 0 body).map fun total : Nat => if negative then -(total : Int) else total

end Offset

end TaskPlan
