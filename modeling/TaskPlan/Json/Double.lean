/-!
# Binary64 numbers

A finite binary64 number is kept exactly, as a sign, a mantissa and a power of
two. `Double.ofDecimal` rounds a decimal to the nearest such number, a half
going to the even mantissa; `Double.shortest` finds the fewest decimal digits
that round back to the number, and `Double.text` writes them.
-/

namespace TaskPlan

/-- A finite binary64 number, `mantissa * 2 ^ exponent` with a sign.

Numbers built by `ofDecimal` are in normal form: the mantissa is below `2 ^ 53`
and the exponent is the least one the format has, `-1074`, unless the mantissa
has all 53 bits. -/
structure Double where
  negative : Bool
  mantissa : Nat
  exponent : Int
deriving DecidableEq, Repr, Inhabited

namespace Double

def minExponent : Int := -1074

def maxExponent : Int := 971

def leastFull : Nat := 4503599627370496

def zero (negative : Bool) : Double := ⟨negative, 0, minExponent⟩

def roundHalfEven (num den : Nat) : Nat :=
  let low := num / den
  let rest := num % den
  if 2 * rest < den then low
  else if den < 2 * rest then low + 1
  else if low % 2 = 0 then low else low + 1

/-- `num / den * 2 ^ shift` as a fraction of natural numbers. -/
def scaleBinary (num den : Nat) (shift : Int) : Nat × Nat :=
  if 0 ≤ shift then (num <<< shift.toNat, den) else (num, den <<< (-shift).toNat)

def scaleDecimal (num den : Nat) (power : Int) : Nat × Nat :=
  if 0 ≤ power then (num * Nat.pow 10 power.toNat, den)
  else (num, den * Nat.pow 10 (-power).toNat)

/-- The positive fraction `num / den` rounded to 53 bits, or `none` when it is
too large for the format. -/
def ofFraction (negative : Bool) (num den : Nat) : Option Double :=
  let guess : Int := (Nat.log2 num : Int) - (Nat.log2 den : Int) - 53
  let (n, d) := scaleBinary num den (-guess)
  let exponent := max (if n / d < 2 * leastFull then guess else guess + 1) minExponent
  let (n, d) := scaleBinary num den (-exponent)
  let mantissa := roundHalfEven n d
  let (mantissa, exponent) :=
    if mantissa = 2 * leastFull then (leastFull, exponent + 1) else (mantissa, exponent)
  if maxExponent < exponent then none else some ⟨negative, mantissa, exponent⟩

/-- The decimal `digits * 10 ^ power` rounded to the nearest number, or `none`
when it is too large. -/
def ofDecimal (negative : Bool) (digits : Nat) (power : Int) : Option Double :=
  if digits = 0 then some (zero negative)
  else
    let places : Int := (Nat.toDigits 10 digits).length + power
    if 310 < places then none
    else if places < -330 then some (zero negative)
    else
      let (num, den) := scaleDecimal digits 1 power
      ofFraction negative num den

/-- Equality of values, for which the two zeros are one. -/
def sameValue (x y : Double) : Bool :=
  x == y || (x.mantissa == 0 && y.mantissa == 0)

/-! ### Shortest decimal text -/

/-- The power of ten of the leading digit of the positive fraction `num / den`. -/
def decimalExponent (num den : Nat) : Int :=
  let places : Int := ((Nat.toDigits 10 num).length : Int) - (Nat.toDigits 10 den).length
  let (n, d) := scaleDecimal num den (-places)
  if n < d then places - 1 else places

/-- The decimals that round to a number lie between `low / den` and
`high / den`, the ends included when `closed`; `value / den` is the number. -/
structure Neighbourhood where
  low : Nat
  value : Nat
  high : Nat
  den : Nat
  closed : Bool

/-- The neighbourhood of a positive number. Below a power of two the numbers
are twice as dense, so its lower half is half as wide there. -/
def neighbourhood (x : Double) : Neighbourhood :=
  let below := if x.mantissa = leastFull ∧ minExponent < x.exponent then 1 else 2
  let scaled (m : Nat) : Nat := (scaleBinary m 1 (x.exponent - 2)).1
  { low := scaled (4 * x.mantissa - below)
    value := scaled (4 * x.mantissa)
    high := scaled (4 * x.mantissa + 2)
    den := (scaleBinary 1 1 (x.exponent - 2)).2
    closed := x.mantissa % 2 == 0 }

def Neighbourhood.holds (r : Neighbourhood) (digits : Nat) (power : Int) : Bool :=
  let (n, d) := scaleDecimal digits 1 power
  let point := n * r.den
  if r.closed then decide (r.low * d ≤ point ∧ point ≤ r.high * d)
  else decide (r.low * d < point ∧ point < r.high * d)

/-- The nearest multiple of `10 ^ power` to the number that rounds back to it. -/
def Neighbourhood.nearest? (r : Neighbourhood) (power : Int) : Option Nat :=
  let (n, d) := scaleDecimal r.value r.den (-power)
  let below := n / d
  let lowFits := r.holds below power
  let highFits := r.holds (below + 1) power
  if lowFits && highFits then some (roundHalfEven n d)
  else if lowFits then some below
  else if highFits then some (below + 1)
  else none

/-- The first count of digits, from `count` on, for which some decimal rounds
back; at most `fuel` counts are tried. -/
def Neighbourhood.search (r : Neighbourhood) (lead : Int) (count : Nat) : Nat → Nat × Int
  | 0 => (0, 0)
  | fuel + 1 =>
    let power := lead - count + 1
    match r.nearest? power with
    | some digits => if digits = 0 then search r lead (count + 1) fuel else (digits, power)
    | none => search r lead (count + 1) fuel

/-- The fewest decimal digits that round back to the positive number `x`, as
`(digits, power)` for `digits * 10 ^ power`. Seventeen digits always do. -/
def shortest (x : Double) : Nat × Int :=
  let r := x.neighbourhood
  r.search (decimalExponent r.value r.den) 1 17

/-- `text` without the zeros at its end, but not without its last character. -/
def dropZeros (digits : List Char) : List Char :=
  match (digits.reverse.dropWhile (· == '0')).reverse with
  | [] => ['0']
  | kept => kept

/-- Digits `d₁ d₂ …` with the point after the first one and a power of ten:
positional, with a digit after the point, from `1e-5` up to below `1e16`, and
else scientific with the sign of the exponent written out. -/
def layout (digits : List Char) (exponent : Int) : List Char :=
  if -5 ≤ exponent ∧ exponent < 0 then
    '0' :: '.' :: (List.replicate (-exponent - 1).toNat '0' ++ digits)
  else if 0 ≤ exponent ∧ exponent < 16 then
    let whole := exponent.toNat + 1
    if digits.length ≤ whole then
      digits ++ List.replicate (whole - digits.length) '0' ++ ['.', '0']
    else digits.take whole ++ '.' :: digits.drop whole
  else
    let mantissa := match digits with
      | [] => []
      | [d] => [d]
      | d :: rest => d :: '.' :: rest
    let power := Nat.toDigits 10 exponent.natAbs
    mantissa ++ 'e' :: (if exponent < 0 then '-' else '+') :: power

/-- The shortest text that reads back as `x`. -/
def text (x : Double) : String :=
  let sign := if x.negative then ['-'] else []
  if x.mantissa = 0 then String.ofList (sign ++ ['0', '.', '0'])
  else
    let (digits, power) := x.shortest
    let all := Nat.toDigits 10 digits
    String.ofList (sign ++ layout (dropZeros all) (power + all.length - 1))

end Double

end TaskPlan
