import Partitura.Yaml.Token
/-!
# Yaml.Node — the tree of a document

A node is a scalar, a sequence, a mapping, or a reference to a node that has an anchor.  What references mean is settled
only when the whole document is there: a node may refer to one that it is part of.
-/
namespace Partitura
namespace Yaml

/-- **A node of a document.** -/
inductive Node where
  | scalar (text : String) (style : Style) (tag : Option String)
  | sequence (tag : Option String) (items : List Node)
  | mapping (entries : List (Node × Node))
  /-- Whatever node has this number. -/
  | reference (number : Nat)

/-- What stands where nothing is written. -/
def Node.absent : Node := .scalar "" .plain none

/-- The numbers of anchored nodes.  A name takes the number of names there are, a new one and one used again alike; of
nodes with one number the last to begin has it. -/
structure Anchors where
  /-- The names and their numbers, each name once. -/
  names : List (String × Nat)
  /-- How many anchored nodes have begun. -/
  begun : Nat
  /-- The nodes that have ended, each with its number and the order of its beginning. -/
  nodes : List (Nat × Nat × Node)

namespace Anchors

def empty : Anchors := ⟨[], 0, []⟩

def number? (a : Anchors) (name : String) : Option Nat := a.names.lookup name

/-- An anchored node begins; the result is its number and the order of its beginning. -/
def begin (a : Anchors) (name : String) : (Nat × Nat) × Anchors :=
  let number := a.names.length
  ((number, a.begun),
    { a with names := (name, number) :: a.names.filter (·.1 != name), begun := a.begun + 1 })

def finish (a : Anchors) (start : Nat × Nat) (node : Node) : Anchors :=
  { a with nodes := (start.1, start.2, node) :: a.nodes }

def node? (a : Anchors) (number : Nat) : Option Node :=
  let held := a.nodes.filter (·.1 == number)
  (held.foldl (fun (last : Option (Nat × Node)) (entry : Nat × Nat × Node) =>
    if last.all (·.1 ≤ entry.2.1) then some entry.2 else last) none).map (·.2)

end Anchors

/-- **A document**: its root and its anchored nodes. -/
structure Document where
  root : Node
  anchors : Anchors

end Yaml
end Partitura
