import TaskPlan.Proofs.Text.Runs
import TaskPlan.Time.Offset

/-!
# Texts of offsets

An offset is written as an optional sign and then terms, each of them an amount and a unit
(`Written`). `seconds?_eq_some_iff` says that exactly these texts are read, as the sum of
their terms if this is in range: as no term is negative, no sum on the way to one in range
is out of it, and nor is a product or an amount. The runs that a term is read by are those
that it was written with, because digits, letters and blanks exclude each other.
-/

namespace TaskPlan

namespace Offset

open Text

variable {s digits letters gap text rest : List Char} {seconds total counted unit n : Nat}

/-! ### Amounts and units -/

/-- The number with these digits, the last of which counts ones. -/
def decimal (digits : List Char) : Nat :=
  Nat.ofDigits 10 (digits.reverse.map fun c => c.toNat - 48)

theorem decimalValue_eq_decimal (digits : List Char) : decimalValue digits = decimal digits := by
  rw [decimal, Nat.ofDigits_eq_foldr, List.foldr_map, List.foldr_reverse, decimalValue]
  congr 1
  funext total c
  simp [add_comm]

theorem upTo?_eq_some_iff {bound m : Nat} : upTo? bound n = some m ↔ n ≤ bound ∧ m = n := by
  rw [upTo?]
  split <;> simp_all [eq_comm]

theorem amount?_eq_some_iff :
    amount? digits = some n ↔ digits ≠ [] ∧ decimal digits ≤ maxWord ∧ n = decimal digits := by
  rw [amount?, decimalValue_eq_decimal]
  split
  · simp_all
  · rw [upTo?_eq_some_iff]
    simp_all

theorem product?_eq_some_iff {amount : Nat} :
    product? amount unit = some n ↔ amount * unit ≤ maxSeconds ∧ n = amount * unit := by
  have inside : maxSeconds ≤ maxWord := by decide
  simp only [product?, Option.bind_eq_some_iff, upTo?_eq_some_iff]
  constructor
  · rintro ⟨_, ⟨-, rfl⟩, fits, rfl⟩
    exact ⟨fits, rfl⟩
  · rintro ⟨fits, rfl⟩
    exact ⟨_, ⟨fits.trans inside, rfl⟩, fits, rfl⟩

def unitNames : List String := ["s", "sec", "secs", "second", "seconds", "m", "min", "mins",
  "minute", "minutes", "h", "hr", "hrs", "hour", "hours", "d", "day", "days", "w", "wk", "week",
  "weeks", "mo", "month", "months", "y", "yr", "yrs", "year", "years"]

theorem unitSeconds_some {name : String} (known : unitSeconds name = some unit) :
    name ∈ unitNames ∧ 0 < unit := by
  unfold unitSeconds at known
  split_ifs at known <;> cases known <;> simp_all [unitNames]
  all_goals tauto

theorem lowercase_unitNames {name : String} (named : name ∈ unitNames) :
    name.toList ≠ [] ∧ ∀ c ∈ name.toList, c.isLower = true := by
  have all : unitNames.all (fun name => !name.toList.isEmpty && name.toList.all Char.isLower) = true := by
    decide
  have here := List.all_eq_true.mp all name named
  simpa using here

theorem isAlpha_of_toLower {c : Char} (lower : c.toLower.isLower = true) : c.isAlpha = true := by
  unfold Char.toLower at lower
  split at lower
  · rename_i capital
    have upper : c.isUpper = true := by simpa [Char.isUpper] using capital
    simp [Char.isAlpha, upper]
  · simp [Char.isAlpha, lower]

/-- The names of units are made of letters, so that a unit is what a run of letters holds. -/
theorem unit?_some (known : unit? letters = some unit) :
    letters ≠ [] ∧ (∀ c ∈ letters, c.isAlpha = true) ∧ 0 < unit := by
  obtain ⟨named, positive⟩ := unitSeconds_some known
  obtain ⟨someLetters, lower⟩ := lowercase_unitNames named
  rw [String.toList_ofList] at someLetters lower
  refine ⟨by simpa using someLetters, fun c member => ?_, positive⟩
  exact isAlpha_of_toLower (lower _ (List.mem_map_of_mem member))

/-! ### Terms -/

/-- An amount and the name of a unit, with blanks after each, and the seconds that they make. -/
inductive Term : (text : List Char) → (seconds : Nat) → Prop where
  | intro {digits gap letters after : List Char} {unit : Nat} (someDigits : digits ≠ [])
      (digital : ∀ c ∈ digits, c.isDigit = true) (gapBlank : ∀ c ∈ gap, isBlank c = true)
      (known : unit? letters = some unit) (afterBlank : ∀ c ∈ after, isBlank c = true) :
      Term (digits ++ (gap ++ (letters ++ after))) (decimal digits * unit)

/-- One or more terms, and the sum of their seconds. -/
inductive Terms : (text : List Char) → (total : Nat) → Prop where
  | last {text : List Char} {seconds : Nat} (term : Term text seconds) : Terms text seconds
  | more {text rest : List Char} {seconds total : Nat} (term : Term text seconds)
      (later : Terms rest total) : Terms (text ++ rest) (seconds + total)

/-- An offset, whether it is negative, and the sum of its terms. -/
inductive Written : (text : List Char) → (negative : Bool) → (total : Nat) → Prop where
  | plain {text : List Char} {total : Nat} (terms : Terms text total) : Written text false total
  | negated {gap text : List Char} {total : Nat} (gapBlank : ∀ c ∈ gap, isBlank c = true)
      (terms : Terms text total) : Written ('-' :: (gap ++ text)) true total

theorem Term.starts (term : Term text seconds) : ∃ c rest, text = c :: rest ∧ c.isDigit = true := by
  obtain ⟨someDigits, digital, -, -, -⟩ := term
  obtain ⟨c, digits, rfl⟩ := List.exists_cons_of_ne_nil someDigits
  exact ⟨c, _, rfl, digital c List.mem_cons_self⟩

theorem Terms.starts (terms : Terms text total) : ∃ c rest, text = c :: rest ∧ c.isDigit = true := by
  cases terms with
  | last term => exact term.starts
  | more term later =>
    obtain ⟨c, rest, rfl, digit⟩ := term.starts
    exact ⟨c, _, rfl, digit⟩

/-- A term is read as what it was written as, if no more letters or blanks come after it. -/
theorem Term.read (term : Term text seconds) (fits : seconds ≤ maxSeconds)
    (noLetter : Stops Char.isAlpha rest) (noBlank : Stops isBlank rest) :
    term? (text ++ rest) = some (seconds, rest) := by
  obtain @⟨digits, gap, letters, after, unit, someDigits, digital, gapBlank, known, afterBlank⟩ := term
  obtain ⟨someLetters, lettered, positive⟩ := unit?_some known
  have lettersEnd : Stops Char.isDigit (letters ++ (after ++ rest)) :=
    .append (stops_of_run (apart_symm isAlpha_of_isDigit) lettered) fun none => absurd none someLetters
  have digitEnd : Stops Char.isDigit (gap ++ (letters ++ (after ++ rest))) :=
    .append (stops_of_run (apart_symm isBlank_of_isDigit) gapBlank) fun _ => lettersEnd
  have gapEnd : Stops isBlank (letters ++ (after ++ rest)) :=
    .append (stops_of_run isBlank_of_isAlpha lettered) fun none => absurd none someLetters
  have letterEnd : Stops Char.isAlpha (after ++ rest) :=
    .append (stops_of_run (apart_symm isBlank_of_isAlpha) afterBlank) fun _ => noLetter
  obtain ⟨readDigits, pastDigits⟩ := run_append digital digitEnd
  obtain ⟨-, pastGap⟩ := run_append gapBlank gapEnd
  obtain ⟨readLetters, pastLetters⟩ := run_append lettered letterEnd
  obtain ⟨-, pastAfter⟩ := run_append afterBlank noBlank
  have amountFits : decimal digits ≤ maxWord := calc
    decimal digits ≤ decimal digits * unit := Nat.le_mul_of_pos_right _ positive
    _ ≤ maxSeconds := fits
    _ ≤ maxWord := by decide
  rw [term?_eq_some_iff]
  simp only [List.append_assoc, readDigits, pastDigits, dropBlanks, pastGap, readLetters,
    pastLetters, pastAfter]
  exact ⟨_, unit, amount?_eq_some_iff.mpr ⟨someDigits, amountFits, rfl⟩, known,
    product?_eq_some_iff.mpr ⟨fits, rfl⟩, trivial⟩

/-- What is read as a term was written as one. -/
theorem term_of_term? (read : term? s = some (seconds, rest)) :
    ∃ text, s = text ++ rest ∧ Term text seconds ∧ seconds ≤ maxSeconds := by
  obtain ⟨amount, unit, counted, known, product, past⟩ := term?_eq_some_iff.mp read
  obtain ⟨someDigits, -, rfl⟩ := amount?_eq_some_iff.mp counted
  obtain ⟨fits, rfl⟩ := product?_eq_some_iff.mp product
  obtain ⟨gap, gapBlank, pastDigits⟩ := exists_gap (s.dropWhile Char.isDigit)
  obtain ⟨after, afterBlank, pastLetters⟩ :=
    exists_gap ((dropBlanks (s.dropWhile Char.isDigit)).dropWhile Char.isAlpha)
  refine ⟨_, ?_, .intro someDigits (fun c => List.mem_takeWhile_imp) gapBlank known afterBlank, fits⟩
  simp only [List.append_assoc, ← past, ← pastLetters, List.takeWhile_append_dropWhile, ← pastDigits]

/-! ### Sums -/

theorem total?_nil : total? counted [] = some counted := by
  rw [total?]
  rfl

theorem total?_eq_some_iff (some : s ≠ []) : total? counted s = .some total ↔
    ∃ seconds rest, term? s = .some (seconds, rest) ∧ counted + seconds ≤ maxSeconds ∧
      total? (counted + seconds) rest = .some total := by
  rw [total?, if_neg (by simpa using some)]
  split
  · rename_i unread
    simp [unread]
  · rename_i seconds rest read
    simp [read, Option.bind_eq_some_iff, upTo?_eq_some_iff]

/-- The seconds of terms are added up as long as their sum is in range. -/
theorem Terms.read (terms : Terms text total) (fits : counted + total ≤ maxSeconds) :
    total? counted text = some (counted + total) := by
  induction terms generalizing counted with
  | @last text seconds term =>
    have read := term.read (by omega) stops_nil stops_nil
    rw [List.append_nil] at read
    obtain ⟨c, s, rfl, -⟩ := term.starts
    exact (total?_eq_some_iff (by simp)).mpr ⟨seconds, [], read, fits, total?_nil⟩
  | @more text rest seconds total term later ih =>
    obtain ⟨d, others, rfl, digit⟩ := later.starts
    have noLetter : Stops Char.isAlpha (d :: others) := stops_cons.mpr (isAlpha_of_isDigit d digit)
    have noBlank : Stops isBlank (d :: others) := stops_cons.mpr (isBlank_of_isDigit d digit)
    have read := term.read (by omega) noLetter noBlank
    have sum : total? (counted + seconds) (d :: others) = some (counted + seconds + total) :=
      ih (by omega)
    rw [total?_eq_some_iff (by simp)]
    exact ⟨seconds, _, read, by omega, by rw [sum, Nat.add_assoc]⟩

/-- A text whose seconds are counted is made of terms, and their sum is in range. -/
theorem terms_of_total? (some : s ≠ []) (read : total? counted s = .some total) :
    ∃ sum, Terms s sum ∧ total = counted + sum ∧ total ≤ maxSeconds := by
  induction length : s.length using Nat.strong_induction_on generalizing s counted with
  | _ length ih =>
    obtain ⟨seconds, rest, read, fits, later⟩ := (total?_eq_some_iff some).mp read
    have shorter := length_lt_of_term? read
    obtain ⟨text, rfl, term, -⟩ := term_of_term? read
    cases rest with
    | nil =>
      cases total?_nil.symm.trans later
      rw [List.append_nil]
      exact ⟨seconds, .last term, rfl, fits⟩
    | cons c rest =>
      obtain ⟨sum, terms, rfl, fits⟩ := ih _ (by omega) (by simp) later rfl
      exact ⟨seconds + sum, .more term terms, by omega, fits⟩

theorem counted_iff {f : Nat → Int} {offset : Int} :
    (if s.isEmpty then none else (total? 0 s).map f) = some offset ↔
      ∃ total, Terms s total ∧ total ≤ maxSeconds ∧ offset = f total := by
  cases s with
  | nil =>
    constructor
    · nofun
    · rintro ⟨total, terms, -⟩
      obtain ⟨c, rest, same, -⟩ := terms.starts
      cases same
  | cons c s =>
    rw [if_neg (by simp), Option.map_eq_some_iff]
    constructor
    · rintro ⟨total, read, rfl⟩
      obtain ⟨sum, terms, rfl, fits⟩ := terms_of_total? (by simp) read
      rw [Nat.zero_add] at fits ⊢
      exact ⟨sum, terms, fits, rfl⟩
    · rintro ⟨total, terms, fits, rfl⟩
      have read : total? 0 (c :: s) = some (0 + total) := terms.read (by omega)
      rw [Nat.zero_add] at read
      exact ⟨total, read, rfl⟩

/-! ### Offsets -/

theorem written_negated_iff {negative : Bool} :
    Written ('-' :: s) negative total ↔ negative = true ∧ Terms (dropBlanks s) total := by
  constructor
  · intro written
    generalize same : '-' :: s = text at written
    cases written with
    | plain terms =>
      obtain ⟨c, rest, rfl, digit⟩ := terms.starts
      cases same
      cases digit
    | @negated gap text _ gapBlank terms =>
      cases same
      obtain ⟨d, others, rfl, digit⟩ := terms.starts
      have ends : Stops isBlank (d :: others) := stops_cons.mpr (isBlank_of_isDigit d digit)
      rw [dropBlanks, (run_append gapBlank ends).2]
      exact ⟨rfl, terms⟩
  · rintro ⟨rfl, terms⟩
    obtain ⟨gap, gapBlank, split⟩ := exists_gap s
    rw [split]
    exact .negated gapBlank terms

theorem written_plain_iff {negative : Bool} (unsigned : ∀ rest, s ≠ '-' :: rest) :
    Written s negative total ↔ negative = false ∧ Terms s total := by
  constructor
  · intro written
    cases written with
    | plain terms => exact ⟨rfl, terms⟩
    | negated gapBlank terms => exact absurd rfl (unsigned _)
  · rintro ⟨rfl, terms⟩
    exact .plain terms

/-- An offset is read from exactly the texts that, without the blanks around them, are written
as one whose terms sum up to no more seconds than an offset can have, and it is that sum, with
the sign that the text has. A scan cuts its text at the ends of runs of digits or letters only,
which are between two characters. What is left after a term is shorter than before, and its
seconds are in range. -/
theorem seconds?_eq_some_iff (input : String) (offset : Int) :
    (seconds? input = some offset ↔ ∃ negative total,
      Written (trimChars input.toList) negative total ∧ total ≤ 9223372036854775 ∧
        offset = if negative then -(total : Int) else total) ∧
      (∀ scanned, (cut? (runEnd Char.isDigit scanned) scanned).isSome ∧
        (cut? (runEnd Char.isAlpha scanned) scanned).isSome) ∧
      ∀ scanned seconds rest, term? scanned = some (seconds, rest) →
        rest.length < scanned.length ∧ seconds ≤ 9223372036854775 := by
  refine ⟨?_, fun scanned => by simp [cut?_runEnd], fun scanned seconds rest read => ?_⟩
  · rw [seconds?]
    generalize trimChars input.toList = trimmed
    split
    rename_i negative body split
    split at split
    · cases split
      rw [counted_iff]
      simp [written_negated_iff, maxSeconds]
    · rename_i unsigned
      cases split
      rw [counted_iff]
      simp [written_plain_iff unsigned, maxSeconds]
  · obtain ⟨text, rfl, -, fits⟩ := term_of_term? read
    exact ⟨length_lt_of_term? read, fits⟩

theorem seconds?_eq_some_iff_negative : seconds? " - 1H30 min " = some (-5400) := by
  have blank : isBlank ' ' = true := by decide +kernel
  have hour : Term ['1', 'H'] (decimal ['1'] * 3600) :=
    @Term.intro ['1'] [] ['H'] [] 3600 (by simp) (by simp) (by simp) (by decide +kernel) (by simp)
  have halfHour : Term ['3', '0', ' ', 'm', 'i', 'n'] (decimal ['3', '0'] * 60) :=
    @Term.intro ['3', '0'] [' '] ['m', 'i', 'n'] [] 60 (by simp) (by simp) (by simp [blank])
      (by decide +kernel) (by simp)
  have trimmed : trimChars " - 1H30 min ".toList =
      '-' :: ([' '] ++ (['1', 'H'] ++ ['3', '0', ' ', 'm', 'i', 'n'])) := by
    decide +kernel
  refine (seconds?_eq_some_iff _ _).1.mpr ⟨true, decimal ['1'] * 3600 + decimal ['3', '0'] * 60, ?_,
    by simp [decimal, Nat.ofDigits_cons], by simp [decimal, Nat.ofDigits_cons]⟩
  rw [trimmed]
  exact .negated (by simp [blank]) (.more hour (.last halfHour))

example : seconds? "9223372036854774s 1S" = some 9223372036854775 := by decide +kernel

end Offset

end TaskPlan
