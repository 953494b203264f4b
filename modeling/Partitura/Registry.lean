import Partitura.Node.Resolution
import Partitura.Rule.Check
import Std.Data.TreeMap
/-!
# Registry — the rules in force

A registry lists rules in the order they were registered, and finds them by an index of their names.  A rule enters only
if it is well-formed and its name is free, and it never leaves, so a name means the same from then on.
-/
namespace Partitura

/-- **The registered rules**, in the order they came. -/
structure Registry where
  rules : List Rule
  /-- The place of each rule in that order, by its name. -/
  places : Std.TreeMap String Nat

namespace Registry

def empty : Registry := ⟨[], ∅⟩

def size (g : Registry) : Nat := g.rules.length

def names (g : Registry) : List String := g.rules.map (·.name)

def find? (g : Registry) (name : String) : Option Rule := g.places[name]?.bind (g.rules[·]?)

def contains (g : Registry) (name : String) : Bool := g.places.contains name

/-- The rule that has to be there. -/
def lookup (g : Registry) (name : String) : Except ScoreError Rule :=
  match g.find? name with
  | some r => .ok r
  | none => .error (.unknownElement name)

/-- The registry with a rule behind the others, under its name from now on. -/
def add (g : Registry) (r : Rule) : Registry := ⟨g.rules ++ [r], g.places.insert r.name g.rules.length⟩

/-- **The registry with one more rule**, if it may enter. -/
def register (g : Registry) (r : Rule) : Except RuleError Registry := do
  r.check
  if g.contains r.name then throw (.duplicateElement r.name)
  return g.add r

def node (g : Registry) (name : String) (args : Arguments) : Except ScoreError Node := do
  let r ← g.lookup name
  Node.ofArguments r args

end Registry
end Partitura
