import TaskPlan.Json.Basic
import TaskPlan.Json.Print
import TaskPlan.Yaml.Node

/-!
# The data of a document

Plain scalars stand for null, booleans, integers or other numbers if they are written
like one, and for texts otherwise. Tags of the core schema ask for one kind; a node
with another tag of its own is no data.
-/

namespace TaskPlan

namespace Yaml

namespace Plain

def isNull (s : String) : Bool := ["null", "Null", "NULL", "~"].contains s

def bool? (s : String) : Option Bool :=
  if ["true", "True", "TRUE"].contains s then some true
  else if ["false", "False", "FALSE"].contains s then some false
  else none

/-! ### Integers -/

def dropSign : List Char → List Char
  | '+' :: rest => rest
  | '-' :: rest => rest
  | s => s

def hasExtraZeros (s : List Char) : Bool :=
  match dropSign s with
  | '0' :: rest => !rest.isEmpty && rest.all Char.isDigit
  | _ => false

def digits? (base : Nat) (s : List Char) : Option Nat :=
  if s.isEmpty then none
  else
    s.foldlM (fun n c => do
      let d ← Text.hexValue? c
      if d < base then some (base * n + d) else none) 0

/-- The number of digits with the mark of their base, or without one in decimals. -/
def magnitude? (whole : List Char) : List Char → Option Nat
  | '0' :: 'x' :: rest => digits? 16 rest
  | '0' :: 'o' :: rest => digits? 8 rest
  | '0' :: 'b' :: rest => digits? 2 rest
  | rest => if hasExtraZeros whole then none else digits? 10 rest

def int? (s : List Char) : Option Int :=
  match s with
  | '-' :: rest => (magnitude? s rest).map fun n => -(n : Int)
  | '+' :: rest => (magnitude? s rest).map Int.ofNat
  | rest => (magnitude? s rest).map Int.ofNat

def isWideInt (n : Int) : Bool :=
  decide (-170141183460469231731687303715884105728 ≤ n ∧
    n < 340282366920938463463374607431768211456)

/-! ### Other numbers -/

/-- What a scalar for a number without fraction stands for: a number, or one that JSON
does not have. -/
inductive Decimal where
  | finite (value : Double)
  | special

def isSpecial (s : String) : Bool :=
  [".inf", ".Inf", ".INF", "+.inf", "+.Inf", "+.INF", "-.inf", "-.Inf", "-.INF", ".nan", ".NaN",
    ".NAN"].contains s

def exponent? : List Char → Option Int
  | [] => some 0
  | c :: rest =>
    if c == 'e' || c == 'E' then
      match rest with
      | '-' :: digits => (digits? 10 digits).map fun n => -(n : Int)
      | '+' :: digits => (digits? 10 digits).map Int.ofNat
      | digits => (digits? 10 digits).map Int.ofNat
    else none

/-- A decimal with or without a fraction and an exponent, and with a digit at least. -/
def decimal? (negative : Bool) (s : List Char) : Option Double := do
  let (whole, rest) := s.span Char.isDigit
  let (fraction, rest) := match rest with
    | '.' :: rest => rest.span Char.isDigit
    | rest => ([], rest)
  guard (!(whole.isEmpty && fraction.isEmpty))
  let exponent ← exponent? rest
  Double.ofDecimal negative (Text.decimalValue (whole ++ fraction))
    (exponent - fraction.length)

def number? (s : String) : Option Decimal :=
  if isSpecial s then some .special
  else
    (match s.toList with
      | '-' :: rest => decimal? true rest
      | '+' :: rest => decimal? false rest
      | rest => decimal? false rest).map .finite

/-! ### Data -/

def Decimal.value : Decimal → Json
  | .finite x => .num (.double x)
  | .special => .null

/-- Integers of 64 bits are data; of wider ones only those beyond 128 bits are, as
other numbers. -/
def intValue? (s : String) : Option (Option Json) :=
  match int? s.toList with
  | some n =>
    if fits : isWordInt n then some (some (.num (.int n fits)))
    else if isWideInt n then some none
    else none
  | none => none

/-- What a plain scalar stands for; none for an integer that is too large. -/
def value? (s : String) : Option Json :=
  if s.isEmpty || isNull s then some .null
  else
    match bool? s with
    | some b => some (.bool b)
    | none =>
      match intValue? s with
      | some value => value
      | none =>
        if hasExtraZeros s.toList then some (.str s)
        else
          match number? s with
          | some x => some x.value
          | none => some (.str s)

end Plain

/-! ### Nodes -/

/-- Tags of a document's own start with a mark. -/
def isOwnTag (tag : Option String) : Bool := tag.any fun tag => tag.toList.head? == some '!'

/-- What a scalar stands for, by its tag or else by its style. -/
def scalarValue? (tag : Option String) (text : String) (style : ScalarStyle) : Option Json :=
  match tag with
  | none => if style == .plain then Plain.value? text else some (.str text)
  | some "tag:yaml.org,2002:bool" => (Plain.bool? text).map .bool
  | some "tag:yaml.org,2002:int" => (Plain.intValue? text).bind id
  | some "tag:yaml.org,2002:float" => (Plain.number? text).map Plain.Decimal.value
  | some "tag:yaml.org,2002:null" => if Plain.isNull text then some .null else none
  | some tag => if isOwnTag (some tag) then none else some (.str text)

namespace Node

/-- The text of a scalar, whatever it stands for. -/
def text? : Node → Option String
  | .scalar _ text _ => some text
  | _ => none

/-- The text that a scalar stands for. -/
def textValue? : Node → Option String
  | .scalar tag text style => (scalarValue? tag text style).bind Json.str?
  | _ => none

mutual

/-- The data of a node, with keys read by `keyOf`. Of several entries for one key the
last counts. -/
def value? (keyOf : Node → Option String) : Node → Option Json
  | .scalar tag text style => scalarValue? tag text style
  | .sequence tag items => if isOwnTag tag then none else (valuesOf? keyOf items).map .arr
  | .mapping tag entries =>
    if isOwnTag tag then none
    else (entriesOf? keyOf entries).map fun entries => .obj (Fields.ofList entries)
termination_by structural node => node

def valuesOf? (keyOf : Node → Option String) : List Node → Option (List Json)
  | [] => some []
  | item :: rest => do
    let item ← value? keyOf item
    let rest ← valuesOf? keyOf rest
    return item :: rest
termination_by structural items => items

def entriesOf? (keyOf : Node → Option String) : List (Node × Node) → Option Fields
  | [] => some []
  | (key, value) :: rest => do
    let key ← keyOf key
    let value ← value? keyOf value
    let rest ← entriesOf? keyOf rest
    return (key, value) :: rest
termination_by structural entries => entries

end

def json? (node : Node) : Option Json := node.value? text?

/-- The fields of a record, from a mapping without repeated keys or from a sequence in
the order of `names`. -/
def members? (names : List String) : Node → Option (List (Option Node))
  | .mapping _ entries => do
    let entries ← entries.mapM fun entry => entry.1.text?.map fun key => (key, entry.2)
    let keys := entries.map Prod.fst
    guard (keys.all names.contains && keys.eraseDups.length == keys.length)
    return names.map fun name => List.lookup name entries
  | .sequence _ items =>
    if names.length < items.length then none
    else some (items.map some ++ List.replicate (names.length - items.length) none)
  | .scalar _ _ _ => none

end Node

/-! ### Documents -/

def read? (text : String) : Option Json := do
  match ← Node.read text with
  | none => return .null
  | some node => node.json?

def readFields? (text : String) : Option Fields := do
  match ← Node.read text with
  | none => return []
  | some (.scalar _ "" .plain) => return []
  | some (.mapping _ entries) => (Node.entriesOf? Node.text? entries).map Fields.ofList
  | some _ => none

end Yaml

end TaskPlan
