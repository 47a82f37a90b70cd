import TaskPlan.Text.Unicode.Letters
import TaskPlan.Text.Unicode.Marks
import TaskPlan.Text.Unicode.Symbols

/-!
# Classes of characters

The classes that patterns and names need, as unions of general categories and of
what a property adds to them.
-/

namespace TaskPlan

namespace Text

/-- Letters in circles and squares, and the two joiners. -/
def otherWordRuns : List Nat := [
  8204, 2, 1192, 52, 117830, 26, 6, 26, 6, 26]

/-- What has the property `Alphabetic` and is no letter or letter number. -/
def otherAlphabeticRuns : List Nat := [
  837, 1, 618, 14, 1, 1, 1, 2, 1, 2, 1, 1, 72, 11, 48, 13, 1, 7, 16, 1, 101, 7, 4, 4, 2, 2, 4,
  1, 35, 1, 30, 16, 102, 11, 101, 2, 3, 9, 1, 3, 1, 4, 167, 12, 3, 7, 6, 20, 54, 2, 2, 15, 1, 2,
  5, 3, 10, 2, 29, 3, 58, 7, 2, 2, 2, 2, 10, 1, 10, 2, 29, 3, 58, 5, 4, 2, 2, 2, 4, 1, 30, 2, 3,
  1, 11, 3, 58, 8, 1, 3, 1, 2, 21, 2, 22, 3, 4, 3, 58, 7, 2, 2, 2, 2, 9, 2, 10, 2, 30, 1, 59, 5,
  3, 3, 1, 3, 10, 1, 40, 5, 57, 7, 1, 3, 1, 3, 8, 2, 11, 2, 29, 3, 58, 7, 1, 3, 1, 3, 8, 2, 11,
  2, 15, 1, 12, 4, 58, 7, 1, 3, 1, 3, 10, 1, 10, 2, 29, 3, 75, 6, 1, 1, 1, 8, 18, 2, 61, 1, 2,
  7, 18, 1, 99, 1, 2, 6, 1, 2, 16, 1, 163, 19, 9, 11, 1, 36, 110, 12, 1, 1, 2, 4, 23, 4, 4, 3,
  1, 3, 2, 7, 3, 4, 13, 12, 1, 1, 10, 4, 1652, 2, 30, 2, 30, 2, 30, 2, 66, 19, 188, 2, 34, 1,
  118, 12, 4, 9, 222, 5, 57, 10, 2, 20, 74, 2, 11, 3, 49, 5, 48, 15, 60, 3, 30, 9, 2, 2, 57, 11,
  50, 19, 432, 14, 1729, 52, 2294, 32, 30836, 8, 34, 2, 354, 1, 8, 1, 23, 5, 88, 2, 50, 16, 1,
  1, 57, 1, 38, 5, 28, 12, 45, 4, 48, 12, 37, 1, 67, 14, 12, 1, 8, 2, 45, 3, 50, 1, 1, 3, 2, 2,
  5, 1, 44, 5, 5, 1, 237, 8, 20275, 1, 2135, 5, 1670, 3, 1, 2, 5, 4, 788, 4, 387, 2, 339, 3, 53,
  14, 45, 2, 11, 3, 45, 9, 9, 1, 61, 3, 36, 12, 18, 2, 57, 3, 48, 13, 14, 2, 92, 9, 2, 1, 6, 1,
  2, 1, 157, 10, 23, 4, 58, 7, 2, 2, 2, 2, 10, 1, 10, 2, 209, 13, 1, 3, 106, 18, 237, 7, 2, 7,
  29, 2, 82, 15, 1, 1, 106, 11, 103, 14, 257, 13, 247, 6, 1, 2, 2, 2, 3, 1, 1, 1, 142, 7, 2, 6,
  4, 1, 28, 10, 42, 5, 1, 4, 18, 11, 46, 14, 407, 8, 1, 7, 83, 22, 1, 14, 122, 6, 3, 1, 1, 2, 1,
  3, 1, 1, 3, 1, 66, 5, 1, 2, 1, 4, 348, 4, 9, 2, 1, 1, 48, 7, 3, 3, 20494, 1, 1, 55, 7, 4, 93,
  2, 19628, 1, 9057, 7, 1, 17, 2, 7, 1, 2, 1, 5, 100, 1, 2231, 1, 2024, 26, 6, 26, 6, 26]

/-- What has the property `Lowercase` and is no lower-case letter. -/
def otherLowercaseRuns : List Nat := [
  170, 1, 15, 1, 501, 9, 7, 2, 30, 5, 96, 1, 52, 1, 3457, 1, 3119, 63, 13, 1, 34, 37, 689, 1,
  13, 1, 16, 13, 211, 16, 848, 26, 1938, 2, 31262, 2, 210, 1, 129, 3, 3, 2, 866, 4, 9, 1, 23574,
  1, 2, 3, 1, 42, 1, 9, 55413, 62]

/-- What has the property `Uppercase` and is no upper-case letter. -/
def otherUppercaseRuns : List Nat := [
  8544, 16, 838, 26, 117856, 26, 6, 26, 6, 26]

/-- What has the property `Grapheme_Extend` and is no nonspacing or enclosing mark. -/
def otherExtendingRuns : List Nat := [
  2494, 1, 24, 1, 358, 1, 24, 1, 102, 1, 24, 1, 234, 1, 18, 2, 103, 1, 24, 1, 119, 1, 15, 1,
  3413, 1, 1238, 1, 4129, 2, 53102, 2, 5022, 1, 24, 1, 344, 1, 12, 1, 241, 1, 896, 1, 47156, 1,
  8, 5, 798381, 96]

def inSome (classes : List (List Nat)) (n : Nat) : Bool := classes.any fun runs => inRuns runs n

def letterClasses : List (List Nat) :=
  [lowercaseLetterRuns, uppercaseLetterRuns, titlecaseLetterRuns, modifierLetterRuns, otherLetterRuns]

def markClasses : List (List Nat) := [nonspacingMarkRuns, spacingMarkRuns, enclosingMarkRuns]

def numberClasses : List (List Nat) := [decimalNumberRuns, letterNumberRuns, otherNumberRuns]

def isAlphabetic (n : Nat) : Bool :=
  inSome (letterClasses ++ [letterNumberRuns, otherAlphabeticRuns]) n

def isNumeric (n : Nat) : Bool := inSome numberClasses n

def isLowercase (n : Nat) : Bool := inSome [lowercaseLetterRuns, otherLowercaseRuns] n

def isUppercase (n : Nat) : Bool := inSome [uppercaseLetterRuns, otherUppercaseRuns] n

/-- The characters of words: alphabetic ones, marks, decimal digits, connectors
and joiners. -/
def isWord (n : Nat) : Bool :=
  inSome (letterClasses ++ [decimalNumberRuns, connectorPunctuationRuns] ++ markClasses ++
    [letterNumberRuns, otherWordRuns]) n

end Text

end TaskPlan
