import TaskPlan.Text.Blank
import TaskPlan.Text.Digits
import TaskPlan.Text.Split
import TaskPlan.Time.Offset

/-!
# Instants

An instant of universal time, to the nanosecond, in the proleptic Gregorian
calendar. `Instant.parse?` reads a date and time with an offset from universal
time; `Instant.stamp` and `Instant.text` write one with three fraction digits and
with as many groups of three as it needs.
-/

namespace TaskPlan

/-- Seconds since the start of 1970 and nanoseconds within the second. A billion
nanoseconds or more stand for a leap second after that second. -/
structure Instant where
  seconds : Int
  nanos : Nat
deriving DecidableEq, Repr, Inhabited

namespace Instant

def before (a b : Instant) : Bool :=
  decide (a.seconds < b.seconds) || (a.seconds == b.seconds && decide (a.nanos < b.nanos))

/-! ### The calendar -/

/-- Days from the start of 1970 to a date, by years that start in March. -/
def daysOfDate (year : Int) (month day : Nat) : Int :=
  let year := if month ≤ 2 then year - 1 else year
  let era := year.fdiv 400
  let yearOfEra := year - era * 400
  let monthFromMarch : Int := (month + 9) % 12
  let dayOfYear := (153 * monthFromMarch + 2) / 5 + day - 1
  let dayOfEra := yearOfEra * 365 + yearOfEra / 4 - yearOfEra / 100 + dayOfYear
  era * 146097 + dayOfEra - 719468

def dateOfDays (days : Int) : Int × Nat × Nat :=
  let shifted := days + 719468
  let era := shifted.fdiv 146097
  let dayOfEra := shifted - era * 146097
  let yearOfEra := (dayOfEra - dayOfEra / 1460 + dayOfEra / 36524 - dayOfEra / 146096) / 365
  let dayOfYear := dayOfEra - (365 * yearOfEra + yearOfEra / 4 - yearOfEra / 100)
  let monthFromMarch := (5 * dayOfYear + 2) / 153
  let day := dayOfYear - (153 * monthFromMarch + 2) / 5 + 1
  let month := if monthFromMarch < 10 then monthFromMarch + 3 else monthFromMarch - 9
  let year := yearOfEra + era * 400
  (if month ≤ 2 then year + 1 else year, month.toNat, day.toNat)

def isLeapYear (year : Int) : Bool :=
  (year.fmod 4 == 0 && year.fmod 100 != 0) || year.fmod 400 == 0

def daysInMonth (year : Int) (month : Nat) : Nat :=
  if month = 2 then (if isLeapYear year then 29 else 28)
  else if [4, 6, 9, 11].contains month then 30 else 31

/-- The first and the last year that an instant may fall in. -/
def minYear : Int := -262143

def maxYear : Int := 262142

def minSeconds : Int := daysOfDate minYear 1 1 * 86400

def maxSeconds : Int := (daysOfDate maxYear 12 31 + 1) * 86400 - 1

def inRange (seconds : Int) : Bool := decide (minSeconds ≤ seconds ∧ seconds ≤ maxSeconds)

/-! ### Moving -/

/-- The instant `offset` seconds later, if it is in range. Moving away from a leap
second leaves it. -/
def addSeconds? (now : Instant) (offset : Int) : Option Instant :=
  let moved : Instant :=
    if now.nanos < 1000000000 ∨ offset = 0 then ⟨now.seconds + offset, now.nanos⟩
    else if 0 < offset then ⟨now.seconds + offset, now.nanos - 1000000000⟩
    else ⟨now.seconds + 1 + offset, now.nanos - 1000000000⟩
  if inRange moved.seconds then some moved else none

/-! ### Writing -/

def padded (width n : Nat) : String :=
  let digits := Nat.toDigits 10 n
  String.ofList (List.replicate (width - digits.length) '0' ++ digits)

/-- A year of at least four digits, with a sign unless it is one of years 0 to 9999. -/
def yearText (year : Int) : String :=
  if 0 ≤ year ∧ year ≤ 9999 then padded 4 year.toNat
  else (if year < 0 then "-" else "+") ++ padded 4 year.natAbs

def secondsText (t : Instant) : String :=
  let (year, month, day) := dateOfDays (t.seconds.fdiv 86400)
  let second := (t.seconds.fmod 86400).toNat
  let last := second % 60 + t.nanos / 1000000000
  yearText year ++ "-" ++ padded 2 month ++ "-" ++ padded 2 day ++ "T" ++
    padded 2 (second / 3600) ++ ":" ++ padded 2 (second / 60 % 60) ++ ":" ++ padded 2 last

/-- The form of timestamps in task definitions: milliseconds, the rest cut off. -/
def stamp (t : Instant) : String :=
  secondsText t ++ "." ++ padded 3 (t.nanos % 1000000000 / 1000000) ++ "Z"

/-- The form of instants in data: no fraction, or three, six or nine digits of it. -/
def text (t : Instant) : String :=
  let nanos := t.nanos % 1000000000
  let fraction :=
    if nanos = 0 then ""
    else if nanos % 1000000 = 0 then "." ++ padded 3 (nanos / 1000000)
    else if nanos % 1000 = 0 then "." ++ padded 6 (nanos / 1000)
    else "." ++ padded 9 nanos
  secondsText t ++ fraction ++ "Z"

/-! ### Reading -/

/-- A number of one to `width` digits, past blanks before it. -/
def readNumber (width : Nat) (s : List Char) : Option (Nat × List Char) :=
  let s := Text.dropBlanks s
  let digits := (s.take width).takeWhile Char.isDigit
  if digits.isEmpty then none else some (Text.decimalValue digits, s.drop digits.length)

/-- A year: up to four digits, or any number of them after a sign. -/
def readYear (s : List Char) : Option (Int × List Char) :=
  let s := Text.dropBlanks s
  match s with
  | '-' :: rest => signed rest true
  | '+' :: rest => signed rest false
  | _ => (readNumber 4 s).map fun (n, rest) => ((n : Int), rest)
where
  signed (rest : List Char) (negative : Bool) : Option (Int × List Char) :=
    let (digits, rest) := rest.span Char.isDigit
    if digits.isEmpty then none
    else
      let n : Int := Text.decimalValue digits
      some (if negative then -n else n, rest)

def readMark (mark : Char) (s : List Char) : Option (List Char) :=
  match Text.dropBlanks s with
  | c :: rest => if c = mark then some rest else none
  | [] => none

/-- The nanoseconds of a fraction, if there is one; digits after the ninth do not count. -/
def readFraction (s : List Char) : Option (Nat × List Char) :=
  match s with
  | '.' :: rest =>
    let (digits, rest) := rest.span Char.isDigit
    if digits.isEmpty then none
    else
      some (Text.decimalValue ((digits ++ List.replicate 9 '0').take 9), rest)
  | _ => some (0, s)

def twoDigits : List Char → Option (Nat × List Char)
  | a :: b :: rest =>
    if a.isDigit && b.isDigit then some (Text.decimalValue [a, b], rest) else none
  | _ => none

/-- An offset from universal time in seconds: `Z`, `UTC`, or hours and minutes
with a sign. -/
def readZone (s : List Char) : Option (Int × List Char) :=
  match s with
  | 'Z' :: rest => some (0, rest)
  | 'z' :: rest => some (0, rest)
  | u :: t :: c :: rest =>
    if u.toLower = 'u' ∧ t.toLower = 't' ∧ c.toLower = 'c' then some (0, rest)
    else signed u (t :: c :: rest)
  | sign :: rest => signed sign rest
  | [] => none
where
  signed (sign : Char) (rest : List Char) : Option (Int × List Char) := do
    let (hours, rest) ← twoDigits rest
    let (minutes, rest) ← twoDigits (rest.dropWhile fun c => c == ':' || Text.isBlank c)
    if 59 < minutes then none
    else
      let total : Int := hours * 3600 + minutes * 60
      if sign = '+' then some (total, rest)
      else if sign = '-' ∨ sign = '\u2212' then some (-total, rest)
      else none

/-- A date and a time with an offset, such as `2024-03-01T12:00:00Z`. The letter
between them may be a blank, and blanks may stand before the parts. -/
def parse? (input : String) : Option Instant := do
  let (year, s) ← readYear input.toList
  let s ← readMark '-' s
  let (month, s) ← readNumber 2 s
  let s ← readMark '-' s
  let (day, s) ← readNumber 2 s
  let s ← match s with
    | c :: rest => if c = 't' ∨ c = 'T' ∨ c = ' ' then some rest else none
    | [] => none
  let (hour, s) ← readNumber 2 s
  let s ← readMark ':' s
  let (minute, s) ← readNumber 2 s
  let s ← readMark ':' s
  let (second, s) ← readNumber 2 s
  let (nanos, s) ← readFraction s
  let (zone, s) ← readZone (Text.dropBlanks s)
  if !(Text.dropBlanks s).isEmpty then none
  else if month < 1 ∨ 12 < month ∨ year < minYear ∨ maxYear < year then none
  else if day < 1 ∨ daysInMonth year month < day then none
  else if 23 < hour ∨ 59 < minute ∨ 60 < second ∨ 86400 ≤ zone.natAbs then none
  else
    let (second, nanos) := if second = 60 then (59, nanos + 1000000000) else (second, nanos)
    let localSeconds := daysOfDate year month day * 86400 + (hour * 3600 + minute * 60 + second : Nat)
    let seconds := localSeconds - zone
    if inRange seconds then some ⟨seconds, nanos⟩ else none

def stampFrom? (input : String) (now : Instant) : Option String := do
  let offset ← Offset.seconds? input
  let instant ← now.addSeconds? offset
  return instant.stamp

end Instant

end TaskPlan
