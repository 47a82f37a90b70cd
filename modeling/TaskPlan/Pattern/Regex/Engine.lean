/-!
# Engines of regular expressions

What is used of a library of regular expressions. It reads a text as an expression, takes in
what is not too large for it, and searches texts for matches. `Regex.Engine.isMatch` puts these
together; the engine that runs is the one of `TaskPlan.Pattern.Regex.Parse`.
-/

namespace TaskPlan

namespace Regex

class Engine where
  Expression : Type
  /-- the expression that a text is by the rules of the syntax -/
  read? : (pattern : String) → Option Expression
  /-- whether the expression keeps within the limits of the engine -/
  accepts : Expression → Bool
  /-- whether some part of the text matches -/
  finds : Expression → (text : String) → Bool

namespace Engine

variable [Engine]

def compile? (pattern : String) : Option Expression := (read? pattern).filter accepts

/-- Whether the pattern is an expression that the engine takes and finds in the text. -/
def isMatch (pattern text : String) : Bool := (compile? pattern).any fun found => finds found text

end Engine

/-- The text of an expression with the anchors of a whole match around it. -/
def anchored (pattern : String) : String := "^(?:" ++ pattern ++ ")$"

end Regex

end TaskPlan
