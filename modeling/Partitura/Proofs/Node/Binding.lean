import Partitura.Proofs.Acceptance
/-!
# Proofs.Node.Binding — which argument goes to which slot, by counting

What building a node answers, said without filling slots one after the other.  A slot holds the value that is given by
its name; the slots not named are numbered, and the positional values that are left go to them by their numbers.  Each
kind of error is looked for on its own, and of those that are found the first in a fixed order is the answer (`built`).
-/
namespace Partitura

namespace Binding

/-- What is wrong with a named value, when values were given for the names `before`. -/
def entryFault? (r : Rule) (before : List String) (name : String) (value : Argument) : Option ArgumentFault :=
  if name ∉ r.slotNames then some (.noSuchSlot r.name name)
  else if r.isContainer ∧ name = Rule.contentSlot ∧ value.items? = none then
    some (.contentNotSequence r.name value.describe)
  else if name ∈ before then some (.repeatedSlot r.name name)
  else none

/-- The first fault among the named values, each seen behind those before it. -/
def namedFault? (r : Rule) (named : List (String × Argument)) : Option ScoreError :=
  named.zipIdx.findSome? fun (entry, i) =>
    (entryFault? r ((named.take i).map Prod.fst) entry.1 entry.2).map .invalidArgument

/-- Is the content of a container to be found among the positional values? -/
def takesContent (r : Rule) (named : List (String × Argument)) : Prop :=
  r.isContainer ∧ Rule.contentSlot ∉ named.map Prod.fst

instance (r : Rule) (named : List (String × Argument)) : Decidable (takesContent r named) :=
  inferInstanceAs (Decidable (_ ∧ _))

/-- **The content**: the sequence of its name, else the first positional sequence. -/
def content (r : Rule) (args : Arguments) : List Element :=
  if takesContent r args.named then (args.positional.findSome? Argument.items?).getD []
  else ((args.named.lookup Rule.contentSlot).bind Argument.items?).getD []

/-- The positional values without the one that is the content. -/
def rest (r : Rule) (args : Arguments) : List Argument :=
  if takesContent r args.named then args.positional.eraseP (·.items?.isSome) else args.positional

/-- The slots that positional values may go to: the parameters, and the position of an attachment. -/
def positionalSlots (r : Rule) : List String :=
  r.parameters.map (·.name) ++ if r.isAttachment then [Rule.positionSlot] else []

/-- Those of them that no value is named for. -/
def openSlots (r : Rule) (named : List (String × Argument)) : List String :=
  (positionalSlots r).filter (· ∉ named.map Prod.fst)

/-- **The value of a slot**: the one of its name, else the positional value of its number among the open slots. -/
def value? (r : Rule) (args : Arguments) (slot : String) : Option Argument :=
  (args.named.lookup slot).or (rest r args)[(openSlots r args.named).idxOf slot]?

/-- The value of the position of an attachment. -/
def positionValue? (r : Rule) (args : Arguments) : Option Argument :=
  if r.isAttachment then value? r args Rule.positionSlot else none

/-- The first positional value beyond the open slots. -/
def surplusFault? (r : Rule) (args : Arguments) : Option ScoreError :=
  (rest r args)[(openSlots r args.named).length]?.map fun value => .tooManyArguments r.name value.describe

/-- The first required parameter that is neither named nor among as many open slots as there are values for. -/
def missingFault? (r : Rule) (args : Arguments) : Option ScoreError :=
  let reached := (openSlots r args.named).take (rest r args).length
  (r.parameters.find? fun p => !p.optional && decide (p.name ∉ args.named.map Prod.fst ∧ p.name ∉ reached)).map fun p =>
    .missingArgument r.name p.name

/-- The first parameter that does not take its value. -/
def kindFault? (r : Rule) (args : Arguments) : Option ScoreError :=
  r.parameters.findSome? fun p => (value? r args p.name).bind (p.fault? r.name)

/-- The first child that shares no category with what the rule accepts. -/
def contentFault? (r : Rule) (args : Arguments) : Option ScoreError := do
  let allowed ← r.content
  let child ← (content r args).find? fun child => !allowed.intersects child.categories
  return .invalidContent r.name allowed child.categories

/-- A value for the position that names none. -/
def positionFault? (r : Rule) (args : Arguments) : Option ScoreError := do
  let value ← positionValue? r args
  if value.position?.isNone then some (.invalidArgument (.badPosition r.name value.describe)) else none

/-- **The first error**, in the order in which slots are bound and checked. -/
def fault? (r : Rule) (args : Arguments) : Option ScoreError :=
  [namedFault? r args.named, surplusFault? r args, missingFault? r args, kindFault? r args, contentFault? r args,
    positionFault? r args].findSome? id

/-- The node whose slots hold their values. -/
def node (r : Rule) (args : Arguments) : Node where
  rule := r
  position := ((positionValue? r args).bind Argument.position?).getD .unset
  parameters := r.parameters.filterMap fun p => ((value? r args p.name).bind p.take?).map (p.name, ·)
  children := r.content.map fun _ => content r args

/-- **What building a node answers.** -/
def built (r : Rule) (args : Arguments) : Except ScoreError Node :=
  match fault? r args with
  | some e => .error e
  | none => .ok (node r args)

end Binding
end Partitura
