/-!
# Leaf.Kind — the kinds of literal values

A parameter may ask for a value of one of fourteen kinds.  Three kinds accept a second one besides themselves.
-/
namespace Partitura

/-- **The kind of a literal value.** -/
inductive LeafKind where
  | boolean
  | unsignedInt
  | signedInt
  | unsignedFloat
  | signedFloat
  | string
  | symbol
  | direction
  | axis
  | color
  | pair
  | list
  | associationList
  | procedure
  deriving DecidableEq

namespace LeafKind

def all : List LeafKind :=
  [boolean, unsignedInt, signedInt, unsignedFloat, signedFloat, string, symbol, direction, axis, color, pair, list,
    associationList, procedure]

/-- The label as catalogs and messages write it. -/
def label : LeafKind → String
  | boolean => "boolean"
  | unsignedInt => "unsigned-int"
  | signedInt => "signed-int"
  | unsignedFloat => "unsigned-float"
  | signedFloat => "signed-float"
  | string => "string"
  | symbol => "symbol"
  | direction => "direction"
  | axis => "axis"
  | color => "color"
  | pair => "pair"
  | list => "list"
  | associationList => "association-list"
  | procedure => "procedure"

def ofLabel? (text : String) : Option LeafKind :=
  all.find? (·.label == text)

/-- **Does a slot of this kind take a value of that one?**  A direction is a number of steps, an axis a number, and an
association list a list. -/
def accepts (slot actual : LeafKind) : Bool :=
  slot == actual ||
    match slot, actual with
    | signedFloat, direction | signedInt, axis | list, associationList => true
    | _, _ => false

/-- Kinds whose literal carries a quote mark when it stands alone. -/
def isQuoted : LeafKind → Bool
  | pair | list | associationList => true
  | _ => false

theorem mem_all (k : LeafKind) : k ∈ all := by cases k <;> decide

theorem ofLabel?_label (k : LeafKind) : ofLabel? k.label = some k := by cases k <;> decide

end LeafKind
end Partitura
