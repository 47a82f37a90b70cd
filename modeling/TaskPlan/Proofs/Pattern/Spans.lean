import Mathlib
import TaskPlan.Pattern.Regex.Basic

/-!
# Matches of regular expressions

`Regex.Spans` tells between which places of a text an expression matches, part by part.
`Regex.advance` sends places to the ends of the matches that start there (`sends_advance`),
also where the number of copies goes beyond the length of the text: what is matched more often
stays in place once and may do so any number of times (`iterated_iff_of_lt`). So an expression
matches in a text if it spans a part of it (`matchesIn_iff`).
-/

namespace TaskPlan

namespace Regex

/-- `count` steps, one from the end of the other. -/
def Iterated (step : Nat → Nat → Prop) : (count first last : Nat) → Prop
  | 0, first, last => first = last
  | count + 1, first, last => ∃ next, step first next ∧ Iterated step count next last

def charBefore (before : Option Char) (text : List Char) : Nat → Option Char
  | 0 => before
  | place + 1 => text[place]?

mutual

/-- The expression matches from one place of the text to another. -/
def Spans (text : List Char) : Regex → (first last : Nat) → Prop
  | .chars set, first, last => last = first + 1 ∧ ∃ c ∈ text[first]?, set.contains c.toNat = true
  | .look condition isWord, first, last =>
    last = first ∧ first ≤ text.length ∧
      condition.holds isWord (charBefore none text first) text[first]? = true
  | .seq parts, first, last => SpansAll text parts first last
  | .alt branches, first, last => SpansSome text branches first last
  | .repeated inner least most, first, last =>
    ∃ more, (∀ bound ∈ most, more ≤ bound - least) ∧
      Iterated (Spans text inner) (least + more) first last
termination_by structural regex => regex

def SpansAll (text : List Char) : List Regex → (first last : Nat) → Prop
  | [], first, last => first = last
  | part :: rest, first, last => ∃ next, Spans text part first next ∧ SpansAll text rest next last
termination_by structural regexes => regexes

def SpansSome (text : List Char) : List Regex → (first last : Nat) → Prop
  | [], _, _ => False
  | branch :: rest, first, last => Spans text branch first last ∨ SpansSome text rest first last
termination_by structural regexes => regexes

end

/-! ### Steps one after the other -/

section Iterated

variable {step : Nat → Nat → Prop} {size : Nat}

/-- Steps go forward, and not beyond the end of a text of `size` characters. -/
def Forward (size : Nat) (step : Nat → Nat → Prop) : Prop :=
  ∀ first last, step first last → first ≤ last ∧ (first ≤ size → last ≤ size)

theorem iterated_add {a b first last : Nat} :
    Iterated step (a + b) first last ↔ ∃ mid, Iterated step a first mid ∧ Iterated step b mid last := by
  induction a generalizing first with
  | zero => simp [Iterated]
  | succ a ih =>
    rw [Nat.succ_add]
    simp only [Iterated, ih]
    grind

theorem Forward.iterated (forward : Forward size step) (count : Nat) : Forward size (Iterated step count) := by
  induction count with
  | zero =>
    rintro first _ rfl
    exact ⟨le_rfl, id⟩
  | succ count ih =>
    rintro first last ⟨next, one, rest⟩
    obtain ⟨forth, within⟩ := forward _ _ one
    obtain ⟨forth', within'⟩ := ih _ _ rest
    exact ⟨forth.trans forth', fun inside => within' (within inside)⟩

/-- Either every step goes forth, or one stays in place, and may be left out or made twice. -/
theorem Forward.idle_or (forward : Forward size step) {count first last : Nat}
    (steps : Iterated step count first last) :
    first + count ≤ last ∨
      Iterated step (count + 1) first last ∧ ∃ less, count = less + 1 ∧ Iterated step less first last := by
  induction count generalizing first with
  | zero => exact .inl (le_of_eq steps)
  | succ count ih =>
    obtain ⟨next, one, rest⟩ := steps
    obtain same | forth := (forward _ _ one).1.eq_or_lt
    · subst same
      exact .inr ⟨⟨first, one, first, one, rest⟩, count, rfl, rest⟩
    · obtain far | ⟨again, less, rfl, without⟩ := ih rest
      · exact .inl (by omega)
      · exact .inr ⟨⟨next, one, again⟩, _, rfl, next, one, without⟩

/-- Beyond the length of the text the number of steps plays no part. -/
theorem Forward.iterated_iff_of_lt (forward : Forward size step) {count first last : Nat}
    (inside : first ≤ size) (many : size < count) :
    Iterated step count first last ↔ Iterated step (size + 1) first last := by
  induction count, many using Nat.le_induction with
  | base => rfl
  | succ count many ih =>
    rw [← ih]
    constructor <;> intro steps
    · obtain far | ⟨-, less, same, without⟩ := forward.idle_or steps
      · have := (forward.iterated _ _ _ steps).2 inside
        omega
      · rwa [Nat.succ.inj same]
    · obtain far | ⟨again, -⟩ := forward.idle_or steps
      · have := (forward.iterated _ _ _ steps).2 inside
        omega
      · exact again

theorem Forward.iterated_min_iff (forward : Forward size step) (count : Nat) {first last : Nat}
    (inside : first ≤ size) :
    Iterated step (min count (size + 1)) first last ↔ Iterated step count first last := by
  obtain few | many := Nat.lt_or_ge size count
  · rw [min_eq_right few, forward.iterated_iff_of_lt inside few]
  · rw [min_eq_left (by omega)]

theorem iterated_stay_or_step {count first last : Nat} :
    Iterated (fun a b => a = b ∨ step a b) count first last ↔ ∃ k ≤ count, Iterated step k first last := by
  induction count generalizing first with
  | zero => simp [Iterated]
  | succ count ih =>
    simp only [Iterated, ih]
    constructor
    · rintro ⟨next, rfl | one, k, few, steps⟩
      · exact ⟨k, by omega, steps⟩
      · exact ⟨k + 1, by omega, next, one, steps⟩
    · rintro ⟨_ | k, few, steps⟩
      · exact ⟨first, .inl rfl, 0, by omega, steps⟩
      · obtain ⟨next, one, rest⟩ := steps
        exact ⟨next, .inr one, k, by omega, rest⟩

end Iterated

/-! ### Sets of places -/

/-- The places of the set are places of a text of `size` characters. -/
def Within (size starts : Nat) : Prop := ∀ place, starts.testBit place = true → place ≤ size

/-- The function sends each set of places to the ends of the steps that start there. -/
def Sends (size : Nat) (move : Nat → Nat) (step : Nat → Nat → Prop) : Prop :=
  ∀ starts, Within size starts → ∀ last,
    (move starts).testBit last = true ↔ ∃ first, starts.testBit first = true ∧ step first last

section Sends

variable {size : Nat} {move : Nat → Nat} {step : Nat → Nat → Prop}

theorem Sends.within (sends : Sends size move step) (forward : Forward size step) {starts : Nat}
    (inside : Within size starts) : Within size (move starts) := by
  intro last there
  obtain ⟨first, start, one⟩ := (sends starts inside last).mp there
  exact (forward first last one).2 (inside first start)

theorem Sends.comp {move' : Nat → Nat} {step' : Nat → Nat → Prop} (sends : Sends size move step)
    (forward : Forward size step) (sends' : Sends size move' step') :
    Sends size (fun starts => move' (move starts)) fun first last => ∃ next, step first next ∧ step' next last := by
  intro starts inside last
  rw [sends' _ (sends.within forward inside)]
  simp only [sends starts inside]
  grind

theorem Sends.or {move' : Nat → Nat} {step' : Nat → Nat → Prop} (sends : Sends size move step)
    (sends' : Sends size move' step') :
    Sends size (fun starts => move starts ||| move' starts) fun first last => step first last ∨ step' first last := by
  intro starts inside last
  rw [Nat.testBit_or, Bool.or_eq_true, sends starts inside, sends' starts inside]
  grind

theorem sends_id : Sends size id Eq := by
  intro starts _ last
  simp

theorem Sends.congr {step' : Nat → Nat → Prop} (sends : Sends size move step)
    (same : ∀ first ≤ size, ∀ last, step first last ↔ step' first last) : Sends size move step' := by
  intro starts inside last
  rw [sends starts inside]
  exact exists_congr fun first => and_congr_right fun start => same first (inside first start) last

/-- Stopping where nothing changes leaves out no step. -/
theorem iterate_eq (move : Nat → Nat) (count here : Nat) : iterate move count here = move^[count] here := by
  induction count generalizing here with
  | zero => rfl
  | succ count ih =>
    rw [iterate, Function.iterate_succ_apply]
    by_cases same : move here = here
    · rw [if_pos same, same, Function.iterate_fixed same]
    · rw [if_neg same, ih]

theorem Sends.iterate (sends : Sends size move step) (forward : Forward size step) (count : Nat) :
    Sends size (iterate move count) (Iterated step count) := by
  have funs : Regex.iterate move count = move^[count] := funext (iterate_eq move count)
  rw [funs]
  clear funs
  induction count with
  | zero => exact sends_id
  | succ count ih =>
    rw [Function.iterate_succ]
    exact sends.comp forward ih

/-- The copies are counted up to the length of the text only, and that is enough. -/
theorem Sends.repeatFrom (sends : Sends size move step) (forward : Forward size step) (least : Nat)
    (most : Option Nat) :
    Sends size (repeatFrom move size least most) fun first last =>
      ∃ more, (∀ bound ∈ most, more ≤ bound - least) ∧ Iterated step (least + more) first last := by
  have stays : Forward size fun a b => a = b ∨ step a b := by
    rintro first last (rfl | one)
    · exact ⟨le_rfl, id⟩
    · exact forward first last one
  have copies := sends.iterate forward (min least (size + 1))
  have further (more : Nat) := (sends_id.or sends).iterate stays more
  -- what is copied beyond `least` may as well be copied `size + 1` times at most
  have capped {bound mid last : Nat} (inside : mid ≤ size) :
      (∃ k ≤ min bound (size + 1), Iterated step k mid last) ↔ ∃ k ≤ bound, Iterated step k mid last := by
    constructor
    · rintro ⟨k, few, steps⟩
      exact ⟨k, by omega, steps⟩
    · rintro ⟨k, few, steps⟩
      exact ⟨min k (size + 1), by omega, (forward.iterated_min_iff k inside).mpr steps⟩
  have unbounded {mid last : Nat} (inside : mid ≤ size) :
      (∃ k ≤ size + 1, Iterated step k mid last) ↔ ∃ k, Iterated step k mid last := by
    constructor
    · rintro ⟨k, -, steps⟩
      exact ⟨k, steps⟩
    · rintro ⟨k, steps⟩
      exact ⟨min k (size + 1), by omega, (forward.iterated_min_iff k inside).mpr steps⟩
  refine (copies.comp (forward.iterated _) (further _)).congr fun first inside last => ?_
  simp only [iterated_add, iterated_stay_or_step, forward.iterated_min_iff least inside]
  have reached {mid : Nat} (steps : Iterated step least first mid) : mid ≤ size :=
    (forward.iterated least first mid steps).2 inside
  cases most with
  | none =>
    simp only [Option.mem_def, reduceCtorEq, false_implies, implies_true, true_and]
    rw [exists_comm]
    refine exists_congr fun mid => ?_
    rw [exists_and_left]
    exact and_congr_right fun steps => unbounded (reached steps)
  | some most =>
    simp only [Option.mem_some_iff, forall_eq']
    constructor
    · rintro ⟨mid, steps, more⟩
      obtain ⟨k, few, rest⟩ := (capped (reached steps)).mp more
      exact ⟨k, few, mid, steps, rest⟩
    · rintro ⟨k, few, mid, steps, rest⟩
      exact ⟨mid, steps, (capped (reached steps)).mpr ⟨k, few, rest⟩⟩

end Sends

theorem charBefore_cons (before : Option Char) (c : Char) (rest : List Char) (place : Nat) :
    charBefore before (c :: rest) (place + 1) = charBefore (some c) rest place := by
  cases place <;> rfl

theorem testBit_places (holds : Option Char → Option Char → Bool) (before : Option Char) (text : List Char)
    (place : Nat) : (places holds before text).testBit place = true ↔
      place ≤ text.length ∧ holds (charBefore before text place) text[place]? = true := by
  have bit_zero (b : Bool) (n : Nat) : (b.toNat + 2 * n).testBit 0 = b := by
    cases b <;> simp
  have bit_succ (b : Bool) (n i : Nat) : (b.toNat + 2 * n).testBit (i + 1) = n.testBit i := by
    have half : (b.toNat + 2 * n) / 2 = n := by
      rw [Nat.add_mul_div_left _ _ two_pos]
      cases b <;> simp
    rw [Nat.testBit_succ, half]
  induction text generalizing before place with
  | nil =>
    cases place with
    | zero => cases here : holds before none <;> simp [places, charBefore, here]
    | succ place =>
      have none := bit_succ (holds before none) 0 place
      simpa [places] using none
  | cons c rest ih =>
    rw [places]
    cases place with
    | zero => simp [bit_zero, charBefore]
    | succ place => simp [bit_succ, ih, charBefore_cons]

/-! ### Matches of the parts -/

variable {text : List Char}

mutual

theorem forward_spans : ∀ regex : Regex, Forward text.length (Spans text regex)
  | .chars set => by
    rintro first _ ⟨rfl, c, there, -⟩
    obtain ⟨inside, -⟩ := List.getElem?_eq_some_iff.mp there
    exact ⟨Nat.le_succ first, fun _ => inside⟩
  | .look condition isWord => by
    rintro first _ ⟨rfl, inside, -⟩
    exact ⟨le_rfl, id⟩
  | .seq parts => forward_spansAll parts
  | .alt branches => forward_spansSome branches
  | .repeated inner least most => by
    rintro first last ⟨more, -, steps⟩
    exact (forward_spans inner).iterated (least + more) first last steps
termination_by structural regex => regex

theorem forward_spansAll : ∀ parts : List Regex, Forward text.length (SpansAll text parts)
  | [] => by
    rintro first _ rfl
    exact ⟨le_rfl, id⟩
  | part :: rest => by
    rintro first last ⟨next, one, others⟩
    obtain ⟨forth, within⟩ := forward_spans part first next one
    obtain ⟨forth', within'⟩ := forward_spansAll rest next last others
    exact ⟨forth.trans forth', fun inside => within' (within inside)⟩
termination_by structural parts => parts

theorem forward_spansSome : ∀ branches : List Regex, Forward text.length (SpansSome text branches)
  | [] => nofun
  | branch :: rest => by
    rintro first last (one | other)
    · exact forward_spans branch first last one
    · exact forward_spansSome rest first last other
termination_by structural branches => branches

end

mutual

theorem sends_advance : ∀ regex : Regex, Sends text.length (advance text regex) (Spans text regex)
  | .chars set => by
    intro starts inside last
    rw [advance]
    cases last with
    | zero => simp [Spans]
    | succ last =>
      rw [Nat.testBit_succ, Nat.mul_div_cancel _ two_pos, Nat.testBit_and, Bool.and_eq_true, testBit_places]
      simp only [Spans, Option.any_eq_true, Option.mem_def]
      grind
  | .look condition isWord => by
    intro starts inside last
    rw [advance, Nat.testBit_and, Bool.and_eq_true, testBit_places]
    simp only [Spans]
    grind
  | .seq parts => sends_advanceAll parts
  | .alt branches => sends_advanceSome branches
  | .repeated inner least most => (sends_advance inner).repeatFrom (forward_spans inner) least most
termination_by structural regex => regex

theorem sends_advanceAll : ∀ parts : List Regex, Sends text.length (advanceAll text parts) (SpansAll text parts)
  | [] => sends_id
  | part :: rest => (sends_advance part).comp (forward_spans part) (sends_advanceAll rest)
termination_by structural parts => parts

theorem sends_advanceSome : ∀ branches : List Regex,
    Sends text.length (advanceSome text branches) (SpansSome text branches)
  | [] => by
    intro starts _ last
    simp [advanceSome, SpansSome]
  | branch :: rest => (sends_advance branch).or (sends_advanceSome rest)
termination_by structural branches => branches

end

/-! ### Matches in a text -/

theorem matchesIn_iff (regex : Regex) (text : String) :
    matchesIn regex text = true ↔
      ∃ first last, first ≤ text.toList.length ∧ Spans text.toList regex first last := by
  have every (place : Nat) : (1 <<< (text.toList.length + 1) - 1).testBit place = true ↔
      place ≤ text.toList.length := by
    rw [Nat.one_shiftLeft, Nat.testBit_two_pow_sub_one, decide_eq_true_iff, Nat.lt_succ_iff]
  have ends := sends_advance regex (1 <<< (text.toList.length + 1) - 1) fun place => (every place).mp
  rw [matchesIn, bne_iff_ne]
  constructor
  · intro some
    obtain ⟨last, there⟩ := Nat.exists_testBit_of_ne_zero some
    obtain ⟨first, start, spans⟩ := (ends last).mp there
    exact ⟨first, last, (every first).mp start, spans⟩
  · rintro ⟨first, last, inside, spans⟩ none
    have there := (ends last).mpr ⟨first, (every first).mpr inside, spans⟩
    rw [none, Nat.zero_testBit] at there
    cases there

theorem charBefore_isNone {place : Nat} (inside : place ≤ text.length) :
    (charBefore none text place).isNone = true ↔ place = 0 := by
  cases place with
  | zero => simp [charBefore]
  | succ place => simpa [charBefore] using inside

end Regex

end TaskPlan
