import TaskPlan.Json.Print
import TaskPlan.Text.Split

/-!
# Keyed-by mappings

A mapping with a single entry whose key starts with `by-` chooses one of its
alternatives by the value of a discriminant, which the rest of the key names.
-/

namespace TaskPlan

namespace KeyedBy

def marker : String := "by-"

def defaultKey : String := "default"

/-- The name of the discriminant and the content of a keyed-by mapping. -/
def parts? : Json → Option (String × Json)
  | .obj [(key, content)] => (Text.after? marker key).map fun name => (name, content)
  | _ => none

/-- The text by which a discriminant's value is looked up; null stands for no value. -/
def discriminantText : Json → Option String
  | .null => none
  | value => some value.plainText

end KeyedBy

end TaskPlan
