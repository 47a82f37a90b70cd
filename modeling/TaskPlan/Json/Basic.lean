import TaskPlan.Json.Double

/-!
# JSON values

A value keeps the entries of a mapping in the order they were written. `Fields`
holds such entries: `Fields.insert` keeps the place of a key that is already
there, and `Fields.get?_insert` and `Fields.get?_erase` say what each operation
does to a look-up. `Json.same` compares values as data, without regard to the
order of entries.
-/

namespace TaskPlan

/-- The integers kept as integers: those of a signed or an unsigned 64-bit word. -/
def isWordInt (n : Int) : Bool :=
  decide (-9223372036854775808 ≤ n ∧ n < 18446744073709551616)

/-- A number: an integer that fits 64 bits with or without a sign, or a binary64
number. `1` and `1.0` are different numbers. -/
inductive Number where
  | int (value : Int) (fits : isWordInt value = true)
  | double (value : Double)
deriving DecidableEq, Repr, Inhabited

namespace Number

def same : Number → Number → Bool
  | .int a _, .int b _ => a == b
  | .double a, .double b => a.sameValue b
  | _, _ => false

def text : Number → String
  | .int n _ => toString n
  | .double x => x.text

end Number

inductive Json where
  | null
  | bool (value : Bool)
  | num (value : Number)
  | str (value : String)
  | arr (items : List Json)
  | obj (fields : List (String × Json))
deriving Inhabited, Repr

abbrev Fields := List (String × Json)

/-! ### Entries -/

namespace Fields

def get? : Fields → String → Option Json
  | [], _ => none
  | (k, v) :: rest, key => if k = key then some v else get? rest key

def contains (fields : Fields) (key : String) : Bool := (get? fields key).isSome

/-- Sets `key`, in the place of its first entry if it has one and else at the end. -/
def insert : Fields → String → Json → Fields
  | [], key, value => [(key, value)]
  | (k, v) :: rest, key, value =>
    if k = key then (k, value) :: rest else (k, v) :: insert rest key value

def erase (fields : Fields) (key : String) : Fields := fields.filter (fun entry => entry.1 != key)

def keys (fields : Fields) : List String := fields.map Prod.fst

/-- The entries of a list in which a key may repeat: it keeps its first place and
its last value. -/
def ofList (entries : List (String × Json)) : Fields :=
  entries.foldl (fun fields entry => insert fields entry.1 entry.2) []

@[simp] theorem get?_nil (key : String) : get? [] key = none := rfl

theorem get?_insert (fields : Fields) (key other : String) (value : Json) :
    (insert fields key value).get? other = if key = other then some value else fields.get? other := by
  induction fields with
  | nil => simp [insert, get?]
  | cons entry rest ih =>
    obtain ⟨k, v⟩ := entry
    by_cases same : k = key
    · subst same
      by_cases found : k = other <;> simp [insert, get?, found]
    · by_cases found : k = other
      · subst found
        simp [insert, get?, same, Ne.symm same]
      · simp [insert, get?, same, found, ih]

theorem get?_erase (fields : Fields) (key other : String) :
    (erase fields key).get? other = if key = other then none else fields.get? other := by
  induction fields with
  | nil => simp [erase, get?]
  | cons entry rest ih =>
    obtain ⟨k, v⟩ := entry
    simp only [erase] at ih
    by_cases same : k = key
    · subst same
      by_cases found : k = other <;> simp_all [erase, get?]
    · by_cases found : k = other
      · subst found
        simp [erase, get?, same, Ne.symm same]
      · simp [erase, get?, same, found, ih]

end Fields

namespace Json

def kindName : Json → String
  | .null => "null"
  | .bool _ => "boolean"
  | .num _ => "number"
  | .str _ => "string"
  | .arr _ => "list"
  | .obj _ => "mapping"

def str? : Json → Option String
  | .str s => some s
  | _ => none

def arr? : Json → Option (List Json)
  | .arr items => some items
  | _ => none

def obj? : Json → Option Fields
  | .obj fields => some fields
  | _ => none

def get? (value : Json) (key : String) : Option Json := value.obj?.bind (·.get? key)

def word? : Json → Option UInt64
  | .num (.int n _) => if 0 ≤ n then some (UInt64.ofNat n.toNat) else none
  | _ => none

theorem isWordInt_toNat (n : UInt64) : isWordInt n.toNat = true := by
  have small := n.toNat_lt
  rw [isWordInt, decide_eq_true_eq]
  omega

def ofWord (n : UInt64) : Json := .num (.int n.toNat (isWordInt_toNat n))

theorem word?_ofWord (n : UInt64) : (ofWord n).word? = some n := by
  simp [ofWord, word?]

mutual

/-- Equality as data: entries of mappings compare without regard to their order,
numbers by value within their kind. -/
def same : Json → Json → Bool
  | .null, .null => true
  | .bool a, .bool b => a == b
  | .num a, .num b => a.same b
  | .str a, .str b => a == b
  | .arr xs, .arr ys => sameItems xs ys
  | .obj fs, .obj gs => fs.length == gs.length && sameEntries fs gs
  | _, _ => false
termination_by structural a => a

def sameItems : List Json → List Json → Bool
  | [], [] => true
  | x :: xs, y :: ys => same x y && sameItems xs ys
  | _, _ => false
termination_by structural a => a

def sameEntries : List (String × Json) → List (String × Json) → Bool
  | [], _ => true
  | (key, v) :: rest, gs =>
    (match Fields.get? gs key with
      | some w => same v w
      | none => false) && sameEntries rest gs
termination_by structural a => a

end

/-! ### Decidable equality -/

mutual

def alike : Json → Json → Bool
  | .null, .null => true
  | .bool a, .bool b => a == b
  | .num a, .num b => a == b
  | .str a, .str b => a == b
  | .arr xs, .arr ys => alikeItems xs ys
  | .obj fs, .obj gs => alikeEntries fs gs
  | _, _ => false
termination_by structural a => a

def alikeItems : List Json → List Json → Bool
  | [], [] => true
  | x :: xs, y :: ys => alike x y && alikeItems xs ys
  | _, _ => false
termination_by structural a => a

def alikeEntries : List (String × Json) → List (String × Json) → Bool
  | [], [] => true
  | (k, v) :: rest, (l, w) :: more => k == l && alike v w && alikeEntries rest more
  | _, _ => false
termination_by structural a => a

end

mutual

theorem alike_iff : ∀ a b : Json, alike a b = true ↔ a = b
  | .null, b => by cases b <;> simp [alike]
  | .bool _, b => by cases b <;> simp [alike]
  | .num _, b => by cases b <;> simp [alike]
  | .str _, b => by cases b <;> simp [alike]
  | .arr xs, b => by cases b <;> simp [alike, alikeItems_iff xs]
  | .obj fs, b => by cases b <;> simp [alike, alikeEntries_iff fs]

theorem alikeItems_iff : ∀ xs ys : List Json, alikeItems xs ys = true ↔ xs = ys
  | [], ys => by cases ys <;> simp [alikeItems]
  | x :: xs, ys => by cases ys <;> simp [alikeItems, alike_iff x, alikeItems_iff xs]

theorem alikeEntries_iff : ∀ fs gs : List (String × Json), alikeEntries fs gs = true ↔ fs = gs
  | [], gs => by cases gs <;> simp [alikeEntries]
  | (k, v) :: fs, gs => by
    cases gs with
    | nil => simp [alikeEntries]
    | cons entry gs =>
      obtain ⟨l, w⟩ := entry
      simp [alikeEntries, alike_iff v, alikeEntries_iff fs, and_assoc]

end

instance : DecidableEq Json := fun a b => decidable_of_iff _ (alike_iff a b)

end Json

end TaskPlan
