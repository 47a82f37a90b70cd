import TaskPlan.Json.Decode

/-!
# Optimization directives

How a task may be optimized away. As data a directive is a mapping from its tag to
its content. `Directive.leaves` lists the plain directives inside composite ones.
-/

namespace TaskPlan

inductive Directive where
  /-- replace the task by the first usable result under these index paths -/
  | indexSearch (paths : List String)
  /-- remove the task unless a changed file matches one of these patterns -/
  | skipUnlessChanged (patterns : List String)
  /-- remove it if some member does; replace it as the first member that can -/
  | anyOf (members : List Directive)
deriving Inhabited, Repr

namespace Directive

def tag : Directive → String
  | .indexSearch _ => "index-search"
  | .skipUnlessChanged _ => "skip-unless-changed"
  | .anyOf _ => "any-of"

mutual

/-- The tags of a directive and of all inside it, in the order of declaration. -/
def tags : Directive → List String
  | .indexSearch _ => ["index-search"]
  | .skipUnlessChanged _ => ["skip-unless-changed"]
  | .anyOf members => "any-of" :: tagsOfAll members
termination_by structural directive => directive

def tagsOfAll : List Directive → List String
  | [] => []
  | member :: rest => tags member ++ tagsOfAll rest
termination_by structural directives => directives

end

mutual

/-- The directives that are not composite, in the order of declaration. -/
def leaves : Directive → List Directive
  | .anyOf members => leavesOfAll members
  | directive => [directive]
termination_by structural directive => directive

def leavesOfAll : List Directive → List Directive
  | [] => []
  | member :: rest => leaves member ++ leavesOfAll rest
termination_by structural directives => directives

end

mutual

def encode : Directive → Json
  | .indexSearch paths => .obj [("index-search", .ofStrings paths)]
  | .skipUnlessChanged patterns => .obj [("skip-unless-changed", .ofStrings patterns)]
  | .anyOf members => .obj [("any-of", .arr (encodeAll members))]
termination_by structural directive => directive

def encodeAll : List Directive → List Json
  | [] => []
  | member :: rest => encode member :: encodeAll rest
termination_by structural directives => directives

end

mutual

def decode? : Json → Option Directive
  | .obj [("index-search", content)] => (Json.asList Json.asStr content).map .indexSearch
  | .obj [("skip-unless-changed", content)] => (Json.asList Json.asStr content).map .skipUnlessChanged
  | .obj [("any-of", .arr members)] => (decodeAll? members).map .anyOf
  | _ => none
termination_by structural value => value

def decodeAll? : List Json → Option (List Directive)
  | [] => some []
  | value :: rest => do
    let member ← decode? value
    let members ← decodeAll? rest
    return member :: members
termination_by structural values => values

end

mutual

def alike : Directive → Directive → Bool
  | .indexSearch a, .indexSearch b => a == b
  | .skipUnlessChanged a, .skipUnlessChanged b => a == b
  | .anyOf a, .anyOf b => alikeAll a b
  | _, _ => false
termination_by structural a => a

def alikeAll : List Directive → List Directive → Bool
  | [], [] => true
  | a :: as, b :: bs => alike a b && alikeAll as bs
  | _, _ => false
termination_by structural a => a

end

mutual

theorem alike_iff : ∀ a b : Directive, alike a b = true ↔ a = b
  | .indexSearch _, b => by cases b <;> simp [alike]
  | .skipUnlessChanged _, b => by cases b <;> simp [alike]
  | .anyOf members, b => by cases b <;> simp [alike, alikeAll_iff members]

theorem alikeAll_iff : ∀ as bs : List Directive, alikeAll as bs = true ↔ as = bs
  | [], bs => by cases bs <;> simp [alikeAll]
  | a :: as, bs => by cases bs <;> simp [alikeAll, alike_iff a, alikeAll_iff as]

end

instance : DecidableEq Directive := fun a b => decidable_of_iff _ (alike_iff a b)

end Directive

end TaskPlan
