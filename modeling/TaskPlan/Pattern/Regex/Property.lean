import TaskPlan.Pattern.Regex.Basic
import TaskPlan.Text.Unicode.CaseFold
import TaskPlan.Text.Unicode.Scripts

/-!
# Named classes of characters

The classes that an expression may call by name: general categories, scripts and a
few properties by their Unicode names, the ASCII classes of bracket expressions,
and the case variants of a class.
-/

namespace TaskPlan

namespace CharSet

def ofRuns (classes : List (List Nat)) : CharSet :=
  ⟨fun n => Text.inSome classes n, (classes.map List.length).foldl (· + ·) 0⟩

def digit : CharSet := .ofRuns [Text.decimalNumberRuns]

def blank : CharSet := ⟨fun n => decide (9 ≤ n ∧ n ≤ 13) || n == 0x20 || n == 0x85 ||
  Text.inSome [Text.spaceSeparatorRuns, Text.lineSeparatorRuns, Text.paragraphSeparatorRuns] n, 10⟩

def word : CharSet := ⟨Text.isWord, 700⟩

def asciiDigit : CharSet := ofRange 48 57

def asciiBlank : CharSet :=
  ⟨fun n => decide (9 ≤ n ∧ n ≤ 13) || n == 0x20, 2⟩

def isAsciiWord (n : Nat) : Bool :=
  decide (48 ≤ n ∧ n ≤ 57) || decide (65 ≤ n ∧ n ≤ 90) || n == 95 || decide (97 ≤ n ∧ n ≤ 122)

def asciiWord : CharSet := ⟨isAsciiWord, 4⟩

def folded (set : CharSet) : CharSet :=
  ⟨fun n => set.contains n || (Text.caseVariants n).any set.contains, 2 * set.weight⟩

def foldedAscii (set : CharSet) : CharSet :=
  ⟨fun n => set.contains n ||
    (decide (65 ≤ n ∧ n ≤ 90) && set.contains (n + 32)) ||
    (decide (97 ≤ n ∧ n ≤ 122) && set.contains (n - 32)), 2 * set.weight⟩

/-- The classes of bracket expressions such as `[[:alpha:]]`. -/
def ascii? (name : String) : Option CharSet :=
  let upper := ofRange 65 90
  let lower := ofRange 97 122
  let digits := ofRange 48 57
  match name with
  | "alnum" => some ((upper.union lower).union digits)
  | "alpha" => some (upper.union lower)
  | "ascii" => some (ofRange 0 127)
  | "blank" => some ((ofRange 9 9).union (ofRange 32 32))
  | "cntrl" => some ((ofRange 0 31).union (ofRange 127 127))
  | "digit" => some digits
  | "graph" => some (ofRange 33 126)
  | "lower" => some lower
  | "print" => some (ofRange 32 126)
  | "punct" => some (((ofRange 33 47).union (ofRange 58 64)).union
      ((ofRange 91 96).union (ofRange 123 126)))
  | "space" => some ((ofRange 9 13).union (ofRange 32 32))
  | "upper" => some upper
  | "word" => some asciiWord
  | "xdigit" => some (digits.union ((ofRange 65 70).union (ofRange 97 102)))
  | _ => none

/-- The general categories with their names in lower case. -/
def categories : List (List String × List (List Nat)) := [
  (["lu", "uppercaseletter"], [Text.uppercaseLetterRuns]),
  (["ll", "lowercaseletter"], [Text.lowercaseLetterRuns]),
  (["lt", "titlecaseletter"], [Text.titlecaseLetterRuns]),
  (["lc", "casedletter"],
    [Text.uppercaseLetterRuns, Text.lowercaseLetterRuns, Text.titlecaseLetterRuns]),
  (["lm", "modifierletter"], [Text.modifierLetterRuns]),
  (["lo", "otherletter"], [Text.otherLetterRuns]),
  (["l", "letter"], Text.letterClasses),
  (["mn", "nonspacingmark"], [Text.nonspacingMarkRuns]),
  (["mc", "spacingmark"], [Text.spacingMarkRuns]),
  (["me", "enclosingmark"], [Text.enclosingMarkRuns]),
  (["m", "mark", "combiningmark"], Text.markClasses),
  (["nd", "decimalnumber", "digit"], [Text.decimalNumberRuns]),
  (["nl", "letternumber"], [Text.letterNumberRuns]),
  (["no", "othernumber"], [Text.otherNumberRuns]),
  (["n", "number"], Text.numberClasses),
  (["pc", "connectorpunctuation"], [Text.connectorPunctuationRuns]),
  (["pd", "dashpunctuation"], [Text.dashPunctuationRuns]),
  (["ps", "openpunctuation"], [Text.openPunctuationRuns]),
  (["pe", "closepunctuation"], [Text.closePunctuationRuns]),
  (["pi", "initialpunctuation"], [Text.initialPunctuationRuns]),
  (["pf", "finalpunctuation"], [Text.finalPunctuationRuns]),
  (["po", "otherpunctuation"], [Text.otherPunctuationRuns]),
  (["p", "punctuation", "punct"],
    [Text.connectorPunctuationRuns, Text.dashPunctuationRuns, Text.openPunctuationRuns,
      Text.closePunctuationRuns, Text.initialPunctuationRuns, Text.finalPunctuationRuns,
      Text.otherPunctuationRuns]),
  (["sm", "mathsymbol"], [Text.mathSymbolRuns]),
  (["sc", "currencysymbol"], [Text.currencySymbolRuns]),
  (["sk", "modifiersymbol"], [Text.modifierSymbolRuns]),
  (["so", "othersymbol"], [Text.otherSymbolRuns]),
  (["s", "symbol"],
    [Text.mathSymbolRuns, Text.currencySymbolRuns, Text.modifierSymbolRuns, Text.otherSymbolRuns]),
  (["zs", "spaceseparator"], [Text.spaceSeparatorRuns]),
  (["zl", "lineseparator"], [Text.lineSeparatorRuns]),
  (["zp", "paragraphseparator"], [Text.paragraphSeparatorRuns]),
  (["z", "separator"],
    [Text.spaceSeparatorRuns, Text.lineSeparatorRuns, Text.paragraphSeparatorRuns]),
  (["cc", "control", "cntrl"], [Text.controlRuns]),
  (["cf", "format"], [Text.formatRuns]),
  (["cs", "surrogate"], [Text.surrogateRuns]),
  (["co", "privateuse"], [Text.privateUseRuns]),
  (["cn", "unassigned"], [Text.unassignedRuns]),
  (["c", "other"],
    [Text.controlRuns, Text.formatRuns, Text.surrogateRuns, Text.privateUseRuns,
      Text.unassignedRuns])]

def category? (name : String) : Option CharSet :=
  if name = "any" then some (ofRange 0 0x10FFFF)
  else if name = "ascii" then some (ofRange 0 127)
  else if name = "assigned" then some (ofRuns [Text.unassignedRuns]).negate
  else (categories.find? fun row => row.1.contains name).map fun row => ofRuns row.2

def script? (name : String) : Option CharSet :=
  (Text.scriptRuns.find? fun row => row.1.contains name).map fun row => ofRuns [row.2]

def property? (name : String) : Option CharSet :=
  if name = "alphabetic" ∨ name = "alpha" then some ⟨Text.isAlphabetic, 700⟩
  else if name = "lowercase" ∨ name = "lower" then some ⟨Text.isLowercase, 650⟩
  else if name = "uppercase" ∨ name = "upper" then some ⟨Text.isUppercase, 650⟩
  else if name = "whitespace" ∨ name = "wspace" ∨ name = "space" then some blank
  else none

/-- A name without case, spaces, hyphens and underscores, and without `is` before it. -/
def looseName (name : List Char) : List Char :=
  let name := match name with
    | 'i' :: 's' :: rest => rest
    | 'I' :: 's' :: rest => rest
    | 'i' :: 'S' :: rest => rest
    | 'I' :: 'S' :: rest => rest
    | _ => name
  (name.filter fun c => !(c == ' ' || c == '_' || c == '-') && decide (c.toNat < 128)).map Char.toLower

/-- The class that a name alone stands for. The short names that a category shares
with a property of another kind mean the category. -/
def named? (name : List Char) : Option CharSet :=
  let name := String.ofList (looseName name)
  (property? name).or ((category? name).or (script? name))

/-- The class of the characters whose property has a value. -/
def valued? (key value : List Char) : Option CharSet :=
  let key := String.ofList (looseName key)
  let value := String.ofList (looseName value)
  if key = "gc" ∨ key = "generalcategory" then category? value
  else if key = "sc" ∨ key = "script" ∨ key = "scx" ∨ key = "scriptextensions" then script? value
  else none

end CharSet

end TaskPlan
