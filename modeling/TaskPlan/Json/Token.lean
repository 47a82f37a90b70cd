import TaskPlan.Json.Basic
import TaskPlan.Text.Digits
import TaskPlan.Text.Split

/-!
# JSON tokens

`Token.scan` cuts a text into the tokens of the JSON grammar, or gives nothing
when some part of it is no token. Integers that fit 64 bits stay integers; every
other number, `-0` among them, is rounded to binary64, and one that is too large
for it is no token.
-/

namespace TaskPlan

namespace Json

inductive Token where
  | openBrace
  | closeBrace
  | openBracket
  | closeBracket
  | colon
  | comma
  | null
  | bool (value : Bool)
  | num (value : Number)
  | str (value : String)
deriving DecidableEq, Repr

namespace Token

def spanDigits (s : List Char) : List Char × List Char := s.span Char.isDigit

def hex4? (a b c d : Char) : Option Nat := do
  let a ← Text.hexValue? a
  let b ← Text.hexValue? b
  let c ← Text.hexValue? c
  let d ← Text.hexValue? d
  return ((a * 16 + b) * 16 + c) * 16 + d

def ofSurrogates (high low : Nat) : Char :=
  Char.ofNat (0x10000 + (high - 0xD800) * 0x400 + (low - 0xDC00))

def isHighSurrogate (n : Nat) : Bool := decide (0xD800 ≤ n ∧ n < 0xDC00)

def isLowSurrogate (n : Nat) : Bool := decide (0xDC00 ≤ n ∧ n < 0xE000)

/-- The rest of a string after its opening quote, with the text that follows the
closing one. A surrogate may only stand in a pair. -/
def scanString : List Char → List Char → Option (String × List Char)
  | _, [] => none
  | done, '"' :: rest => some (String.ofList done.reverse, rest)
  | done, '\\' :: '"' :: rest => scanString ('"' :: done) rest
  | done, '\\' :: '\\' :: rest => scanString ('\\' :: done) rest
  | done, '\\' :: '/' :: rest => scanString ('/' :: done) rest
  | done, '\\' :: 'b' :: rest => scanString (Char.ofNat 8 :: done) rest
  | done, '\\' :: 'f' :: rest => scanString (Char.ofNat 12 :: done) rest
  | done, '\\' :: 'n' :: rest => scanString ('\n' :: done) rest
  | done, '\\' :: 'r' :: rest => scanString ('\r' :: done) rest
  | done, '\\' :: 't' :: rest => scanString ('\t' :: done) rest
  | done, '\\' :: 'u' :: a :: b :: c :: d :: rest =>
    match hex4? a b c d with
    | none => none
    | some high =>
      if isLowSurrogate high then none
      else if isHighSurrogate high then
        match rest with
        | '\\' :: 'u' :: e :: f :: g :: h :: more =>
          match hex4? e f g h with
          | none => none
          | some low =>
            if isLowSurrogate low then scanString (ofSurrogates high low :: done) more else none
        | _ => none
      else scanString (Char.ofNat high :: done) rest
  | done, c :: rest =>
    if c = '\\' ∨ c.toNat < 32 then none else scanString (c :: done) rest

def scanFraction? : List Char → Option (List Char × List Char)
  | '.' :: rest =>
    match spanDigits rest with
    | ([], _) => none
    | (digits, rest) => some (digits, rest)
  | rest => some ([], rest)

def scanExponent? (s : List Char) : Option (Option Int × List Char) :=
  match s with
  | c :: rest =>
    if c = 'e' ∨ c = 'E' then
      let (negative, rest) := match rest with
        | '-' :: more => (true, more)
        | '+' :: more => (false, more)
        | _ => (false, rest)
      match spanDigits rest with
      | ([], _) => none
      | (digits, rest) =>
        let power : Int := Text.decimalValue digits
        some (some (if negative then -power else power), rest)
    else some (none, s)
  | [] => some (none, s)

/-- An unsigned number at the start of a text. A leading zero stands alone. -/
def scanNumber (negative : Bool) (s : List Char) : Option (Number × List Char) := do
  let (whole, rest) ← match s with
    | '0' :: rest => some (['0'], rest)
    | _ => match spanDigits s with
      | ([], _) => none
      | parts => some parts
  let (fraction, rest) ← scanFraction? rest
  let (power, rest) ← scanExponent? rest
  let digits := Text.decimalValue (whole ++ fraction)
  let signed : Int := if negative then -digits else digits
  if h : fraction.isEmpty ∧ power.isNone ∧ isWordInt signed ∧ !(negative && digits == 0) then
    return (.int signed h.2.2.1, rest)
  else
    let value ← Double.ofDecimal negative digits (power.getD 0 - fraction.length)
    return (.double value, rest)

def isSpace (c : Char) : Bool := c == ' ' || c == '\n' || c == '\t' || c == '\r'

def next? (s : List Char) : Option (Token × List Char) :=
  match s with
  | [] => none
  | c :: rest =>
    if c = '\x7b' then some (.openBrace, rest)
    else if c = '\x7d' then some (.closeBrace, rest)
    else if c = '[' then some (.openBracket, rest)
    else if c = ']' then some (.closeBracket, rest)
    else if c = ':' then some (.colon, rest)
    else if c = ',' then some (.comma, rest)
    else if c = '"' then (scanString [] rest).map fun (text, rest) => (.str text, rest)
    else if c = 'n' then (Text.dropHead? ['u', 'l', 'l'] rest).map fun rest => (.null, rest)
    else if c = 't' then (Text.dropHead? ['r', 'u', 'e'] rest).map fun rest => (.bool true, rest)
    else if c = 'f' then (Text.dropHead? ['a', 'l', 's', 'e'] rest).map fun rest => (.bool false, rest)
    else if c = '-' then (scanNumber true rest).map fun (value, rest) => (.num value, rest)
    else (scanNumber false s).map fun (value, rest) => (.num value, rest)

/-- The tokens of a text, at most `fuel` of them; every token has a character, so
the length of the text is fuel enough. -/
def scanWith : Nat → List Char → Option (List Token)
  | fuel, s =>
    match s.dropWhile isSpace with
    | [] => some []
    | c :: rest =>
      match fuel with
      | 0 => none
      | fuel + 1 => do
        let (token, rest) ← next? (c :: rest)
        let tokens ← scanWith fuel rest
        return token :: tokens

def scan (s : String) : Option (List Token) :=
  let chars := s.toList
  scanWith chars.length chars

end Token

end Json

end TaskPlan
