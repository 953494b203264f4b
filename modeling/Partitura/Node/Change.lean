import Partitura.Node.Resolution
/-!
# Node.Change — changing the values and the children of a node

Every change makes the same checks as building the node does, so a node never holds what its rule refuses.  A refused
change is an error, and the node that it was asked of is as it was.
-/
namespace Partitura
namespace Node

def parameter? (n : Node) (name : String) : Option Value := n.parameters.lookup name

/-- **The node at another position**; only an attachment has one. -/
def setPosition (n : Node) (p : Position) : Except ScoreError Node :=
  if n.rule.isAttachment then .ok { n with position := p }
  else .error (.invalidArgument (.positionNotTaken n.rule.name))

/-- Another value for the first entry of a name. -/
def replaceValue (name : String) (value : Value) : List (String × Value) → List (String × Value)
  | [] => []
  | entry :: entries =>
    if entry.1 == name then (entry.1, value) :: entries else entry :: replaceValue name value entries

def inOrder (r : Rule) (entries : List (String × Value)) : List (String × Value) :=
  let place (entry : String × Value) := r.parameters.findIdx (·.name == entry.1)
  entries.mergeSort fun a b => place a ≤ place b

/-- **The node with another value of a parameter**, bound so far or not. -/
def setParameter (n : Node) (name : String) (value : Argument) : Except ScoreError Node :=
  match n.rule.parameter? name with
  | none => .error (.invalidArgument (.noSuchSlot n.rule.name name))
  | some p => do
    let value ← p.check n.rule.name value
    if n.parameters.any (·.1 == name) then return { n with parameters := replaceValue name value n.parameters }
    else return { n with parameters := inOrder n.rule (n.parameters ++ [(name, value)]) }

def elements (n : Node) : Except ScoreError (List Element) :=
  match n.children with
  | some children => .ok children
  | none => .error (.notAContainer n.rule.name)

/-- The number of children; a command has none. -/
def size (n : Node) : Nat := (n.children.getD []).length

def get? (n : Node) (index : Nat) : Option Element := n.children.bind (·[index]?)

def withChildren (n : Node) (children : List Element) : Node := { n with children := some children }

/-- **One more child at the end.** -/
def append (n : Node) (child : Element) : Except ScoreError Node := do
  n.rule.checkChild child
  let children ← n.elements
  return n.withChildren (children ++ [child])

/-- **More children at the end**, all of them or none. -/
def extend (n : Node) (more : List Element) : Except ScoreError Node := do
  let children ← n.elements
  n.rule.checkChildren more
  return n.withChildren (children ++ more)

/-- **One more child before a place**; past the end it goes to the end. -/
def insert (n : Node) (index : Nat) (child : Element) : Except ScoreError Node := do
  n.rule.checkChild child
  let children ← n.elements
  return n.withChildren (children.take index ++ child :: children.drop index)

/-- The child that has to stand at a place. -/
def childAt (n : Node) (children : List Element) (index : Nat) : Except ScoreError Element :=
  match children[index]? with
  | some child => .ok child
  | none => .error (.indexOutOfRange n.rule.name index children.length)

/-- **Another child at a place**, and the one that stood there. -/
def set (n : Node) (index : Nat) (child : Element) : Except ScoreError (Element × Node) := do
  n.rule.checkChild child
  let children ← n.elements
  let old ← n.childAt children index
  return (old, n.withChildren (children.set index child))

/-- **Without the child at a place**, which is handed out. -/
def delete (n : Node) (index : Nat) : Except ScoreError (Element × Node) := do
  let children ← n.elements
  let old ← n.childAt children index
  return (old, n.withChildren (children.eraseIdx index))

/-- **Without the last child**, which is handed out. -/
def pop (n : Node) : Except ScoreError (Element × Node) := do
  let children ← n.elements
  n.delete (children.length - 1)

/-- The place of the first child that equals an element. -/
def indexOf (n : Node) (child : Element) : Except ScoreError Nat := do
  let children ← n.elements
  match children.findIdx? (· == child) with
  | some index => return index
  | none => throw (.childNotFound n.rule.name)

/-- **Without the first child that equals an element.** -/
def remove (n : Node) (child : Element) : Except ScoreError Node := do
  let index ← n.indexOf child
  let children ← n.elements
  return n.withChildren (children.eraseIdx index)

def count (n : Node) (child : Element) : Except ScoreError Nat := do
  let children ← n.elements
  return children.countP (· == child)

/-- **The children several times over**, in their order; copies of a toggle stay one toggle. -/
def repeatChildren (n : Node) (times : Nat) : Except ScoreError Node := do
  let children ← n.elements
  return n.withChildren (List.replicate times children).flatten

end Node
end Partitura
