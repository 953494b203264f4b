import Partitura.Element.Equality
/-!
# Node.Resolution — binding arguments to slots

A caller hands over values by position and values by name; a value is a literal, an element, a sequence of elements or a
position.  Values by name go first, each to the slot of its name.  If the content is still open, the first positional
sequence becomes it, wherever it stands.  The other positional values fill the open parameters in their order, then the
position.  After that no value may be left over and no required parameter open; then every value is checked against its
slot, in the order parameters, children, position.
-/
namespace Partitura

/-- **A value for a slot.** -/
inductive Argument where
  | leaf (leaf : Leaf)
  | element (element : Element)
  | sequence (items : List Element)
  | position (position : Position)

/-- The value as messages call it. -/
def Argument.describe : Argument → String
  | leaf v => v.kind.label ++ " value " ++ v.topLevel
  | element e => e.describe
  | sequence items => "a sequence of " ++ items.length.repr ++ " elements"
  | position p => "position `" ++ p.label ++ "`"

/-- **The values for one element**: by position, and by name in the order they were given. -/
structure Arguments where
  positional : List Argument
  named : List (String × Argument)

namespace Arguments

def none : Arguments := ⟨[], []⟩

/-- Values by position only. -/
def ofList (positional : List Argument) : Arguments := ⟨positional, []⟩

end Arguments

/-! ## Slots -/

/-- **What the slots of a rule hold so far**: one place for each parameter, in order, and the two implicit slots. -/
structure Slots where
  parameters : List (Option Argument)
  position : Option Argument
  content : Option (List Element)

namespace Slots

def vacant (r : Rule) : Slots := ⟨r.parameters.map fun _ => none, none, none⟩

def again {α : Type} (r : Rule) (name : String) : Except ScoreError α :=
  .error (.invalidArgument (.repeatedSlot r.name name))

/-- Puts a value into the slot of its name, which has to be open. -/
def bindNamed (r : Rule) (s : Slots) (name : String) (value : Argument) : Except ScoreError Slots :=
  match r.parameters.findIdx? (·.name == name) with
  | some i =>
    match s.parameters[i]? with
    | some (some _) => again r name
    | _ => .ok { s with parameters := s.parameters.set i (some value) }
  | none =>
    if name == Rule.positionSlot && r.isAttachment then
      match s.position with
      | some _ => again r name
      | none => .ok { s with position := some value }
    else if name == Rule.contentSlot && r.isContainer then
      match value with
      | .sequence items =>
        match s.content with
        | some _ => again r name
        | none => .ok { s with content := some items }
      | value => .error (.invalidArgument (.contentNotSequence r.name value.describe))
    else .error (.invalidArgument (.noSuchSlot r.name name))

def bindAll (r : Rule) : Slots → List (String × Argument) → Except ScoreError Slots
  | s, [] => .ok s
  | s, (name, value) :: rest => do
    let s ← bindNamed r s name value
    bindAll r s rest

/-- The first sequence among values, and the values without it. -/
def firstSequence : List Argument → Option (List Element × List Argument)
  | [] => none
  | .sequence items :: rest => some (items, rest)
  | value :: rest => (firstSequence rest).map fun (items, others) => (items, value :: others)

/-- Takes the first positional sequence as the content of a container that has none yet. -/
def takeContent (r : Rule) (s : Slots) (positional : List Argument) : Slots × List Argument :=
  match s.content, r.isContainer, firstSequence positional with
  | none, true, some (items, rest) => ({ s with content := some items }, rest)
  | _, _, _ => (s, positional)

/-- Fills open places in their order; the second part is what is left of the values. -/
def fill : List (Option Argument) → List Argument → List (Option Argument) × List Argument
  | [], values => ([], values)
  | some held :: places, values =>
    let (places, rest) := fill places values
    (some held :: places, rest)
  | none :: places, [] => (none :: places, [])
  | none :: places, value :: values =>
    let (places, rest) := fill places values
    (some value :: places, rest)

/-- Takes the next value as the position of an attachment that has none yet. -/
def fillPosition (r : Rule) : Option Argument → List Argument → Option Argument × List Argument
  | none, value :: rest => if r.isAttachment then (some value, rest) else (none, value :: rest)
  | held, values => (held, values)

/-- The slots after the positional values, and the values that found no slot. -/
def bindPositional (r : Rule) (s : Slots) (positional : List Argument) : Slots × List Argument :=
  let (s, values) := takeContent r s positional
  let (parameters, values) := fill s.parameters values
  let (position, values) := fillPosition r s.position values
  ({ s with parameters, position }, values)

/-- The first required parameter whose place is open. -/
def firstMissing : List Parameter → List (Option Argument) → Option Parameter
  | p :: ps, place :: places => if !p.optional && place.isNone then some p else firstMissing ps places
  | _, _ => none

end Slots

/-- **Checks a value against the kind of its parameter.**  A sequence or a position fits no parameter. -/
def Parameter.check (element : String) (p : Parameter) (value : Argument) : Except ScoreError Value :=
  let refused := Except.error (.invalidArgument (.wrongKind p.name element p.kind value.describe))
  match p.kind, value with
  | .any, .leaf v => .ok (.leaf v)
  | .any, .element e => .ok (.element e)
  | .leaf kind, .leaf v => if kind.accepts v.kind then .ok (.leaf v) else refused
  | .node categories, .element e => if categories.intersects e.categories then .ok (.element e) else refused
  | _, _ => refused

def checkParameters (element : String) :
    List Parameter → List (Option Argument) → Except ScoreError (List (String × Value))
  | p :: ps, some value :: places => do
    let value ← p.check element value
    let rest ← checkParameters element ps places
    return (p.name, value) :: rest
  | _ :: ps, none :: places => checkParameters element ps places
  | _, _ => .ok []

/-- **Checks a child** against the categories that the rule accepts. -/
def Rule.checkChild (r : Rule) (child : Element) : Except ScoreError Unit :=
  match r.content with
  | none => .error (.notAContainer r.name)
  | some allowed =>
    if allowed.intersects child.categories then .ok ()
    else .error (.invalidContent r.name allowed child.categories)

/-- Checks children from the first to the last. -/
def Rule.checkChildren (r : Rule) : List Element → Except ScoreError Unit
  | [] => .ok ()
  | child :: rest => do
    r.checkChild child
    checkChildren r rest

/-- The position that a value names: itself, or by the text of a string or symbol. -/
def Argument.position? : Argument → Option Position
  | position p => some p
  | leaf v => v.text?.bind Position.ofLabel?
  | _ => none

def Rule.checkPosition (r : Rule) : Option Argument → Except ScoreError Position
  | none => .ok .unset
  | some value =>
    match value.position? with
    | some p => .ok p
    | none => .error (.invalidArgument (.badPosition r.name value.describe))

/-- The children that the content slot of a container holds; a command has none. -/
def Rule.resolveContent (r : Rule) (content : Option (List Element)) : Except ScoreError (Option (List Element)) :=
  match r.content with
  | none => .ok none
  | some _ => do
    let children := content.getD []
    r.checkChildren children
    return some children

/-- **The node of a rule with these arguments.** -/
def Node.ofArguments (r : Rule) (args : Arguments) : Except ScoreError Node := do
  let named ← Slots.bindAll r (Slots.vacant r) args.named
  let (slots, rest) := named.bindPositional r args.positional
  if let value :: _ := rest then throw (.tooManyArguments r.name value.describe)
  if let some p := Slots.firstMissing r.parameters slots.parameters then throw (.missingArgument r.name p.name)
  let parameters ← checkParameters r.name r.parameters slots.parameters
  let children ← r.resolveContent slots.content
  let position ← r.checkPosition slots.position
  return { rule := r, position, parameters, children }

end Partitura
