import TaskPlan.Json.Basic
import TaskPlan.Order.KeyMap

/-!
# Reading data from values

Decoders of plain data. A record comes from a mapping by the names of its fields,
or from a list in their order; a field that is not there may have a default, and
null is a value like any other.
-/

namespace TaskPlan

namespace Json

/-- The fields of a record in the order of `names`. A strict record refuses keys
that are no field of it; a list may be shorter than the record but not longer. -/
def members? (names : List String) (strict : Bool) : Json → Option (List (Option Json))
  | .obj fields =>
    if strict && fields.any fun entry => !names.contains entry.1 then none
    else some (names.map (Fields.get? fields))
  | .arr items =>
    if names.length < items.length then none
    else some (items.map some ++ List.replicate (names.length - items.length) none)
  | _ => none

def needed (decode : Json → Option α) (field : Option Json) : Option α := field.bind decode

def defaulted (decode : Json → Option α) (default : α) : Option Json → Option α
  | none => some default
  | some value => decode value

def optional (decode : Json → Option α) : Json → Option (Option α)
  | .null => some none
  | value => (decode value).map some

def asStr : Json → Option String := str?

def asBool : Json → Option Bool
  | .bool b => some b
  | _ => none

def asAny (value : Json) : Option Json := some value

def asFields : Json → Option Fields := obj?

def asList (decode : Json → Option α) : Json → Option (List α)
  | .arr items => items.mapM decode
  | _ => none

def asMap (decode : Json → Option α) : Json → Option (KeyMap α)
  | .obj fields =>
    (fields.mapM fun entry => (decode entry.2).map fun value => (entry.1, value)).map KeyMap.ofList
  | _ => none

/-! ### Writing data -/

def ofStrings (items : List String) : Json := .arr (items.map .str)

def ofMap (encode : α → Json) (m : KeyMap α) : Json :=
  .obj (m.toList.map fun entry => (entry.1, encode entry.2))

end Json

end TaskPlan
