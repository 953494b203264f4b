import Partitura.Color
import Partitura.Decimal
import Partitura.Text
/-!
# Leaf — literal values

The values that stand in parameters: truth values, numbers, texts, symbols, directions, axes, colors, pairs, lists and
procedures.  What a value has to satisfy is part of its type, so every value can be written down: `Leaf.nested` is the
bare literal as it stands inside a pair or list, `Leaf.topLevel` the literal as an argument of its own, behind its
marker.
-/
namespace Partitura

/-- A number of steps along an axis, by name. -/
inductive Direction where
  | up
  | down
  | center
  deriving DecidableEq

namespace Direction

def literal : Direction → String
  | up => "UP"
  | down => "DOWN"
  | center => "CENTER"

/-- The direction that a token names: in small letters, capitalised, or in capitals. -/
def ofToken (token : String) : Except ScoreError Direction :=
  if ["up", "Up", "UP"].contains token then .ok up
  else if ["down", "Down", "DOWN"].contains token then .ok down
  else if ["center", "Center", "CENTER"].contains token then .ok center
  else .error (.invalidArgument (.notDirection token))

end Direction

/-- One of the two axes. -/
inductive Axis where
  | x
  | y
  deriving DecidableEq

namespace Axis

def literal : Axis → String
  | x => "X"
  | y => "Y"

def ofToken (token : String) : Except ScoreError Axis :=
  if ["x", "X"].contains token then .ok x
  else if ["y", "Y"].contains token then .ok y
  else .error (.invalidArgument (.notAxis token))

end Axis

/-- A character that may begin a symbol. -/
def isSymbolStart (c : Char) : Bool := Text.isLetter c || "_!$%&*/:<=>?^~".toList.contains c

/-- A character that may follow in a symbol. -/
def isSymbolChar (c : Char) : Bool := isSymbolStart c || Text.isDigit c || "+.@-".toList.contains c

def isSymbol : List Char → Bool
  | [] => false
  | c :: cs => isSymbolStart c && cs.all isSymbolChar

/-- **A symbol**, a name without blanks, quotes and parentheses. -/
structure Symbol where
  name : String
  wellFormed : isSymbol name.toList = true
  deriving DecidableEq

/-- Reads parentheses at a depth: none closes more than are open, and none is left open. -/
def balancedFrom : Nat → List Char → Bool
  | depth, [] => depth == 0
  | depth, c :: cs =>
    if c = '(' then balancedFrom (depth + 1) cs
    else if c = ')' then
      match depth with
      | 0 => false
      | depth + 1 => balancedFrom depth cs
    else balancedFrom depth cs

/-- **Do the parentheses match?** -/
def balanced (cs : List Char) : Bool := balancedFrom 0 cs

/-- **A procedure**: an expression with matching parentheses and without blanks around it. -/
structure Procedure where
  expression : String
  trimmed : Text.trim expression.toList = expression.toList
  nonempty : expression.toList ≠ []
  closed : balanced expression.toList = true
  deriving DecidableEq

/-- **A literal value.** -/
inductive Leaf where
  | boolean (value : Bool)
  | unsignedInt (value : Nat)
  | signedInt (value : Int)
  | unsignedFloat (value : Binary64)
  | signedFloat (value : Binary64)
  | string (text : String)
  | symbol (symbol : Symbol)
  | direction (direction : Direction)
  | axis (axis : Axis)
  | color (color : Color)
  | pair (first second : Leaf)
  | list (items : List Leaf)
  | associationList (entries : List (Leaf × Leaf))
  | procedure (procedure : Procedure)

namespace Leaf

def kind : Leaf → LeafKind
  | boolean _ => .boolean
  | unsignedInt _ => .unsignedInt
  | signedInt _ => .signedInt
  | unsignedFloat _ => .unsignedFloat
  | signedFloat _ => .signedFloat
  | string _ => .string
  | symbol _ => .symbol
  | direction _ => .direction
  | axis _ => .axis
  | color _ => .color
  | pair _ _ => .pair
  | list _ => .list
  | associationList _ => .associationList
  | procedure _ => .procedure

def text? : Leaf → Option String
  | string text => some text
  | symbol s => some s.name
  | _ => none

mutual
/-- **The bare literal**, as it stands inside a pair or list. -/
def nested : Leaf → String
  | boolean true => "t"
  | boolean false => "f"
  | unsignedInt n => n.repr
  | signedInt z => z.repr
  | unsignedFloat x => x.text
  | signedFloat x => x.text
  | string text => Text.quoted text
  | symbol s => s.name
  | direction d => d.literal
  | axis a => a.literal
  | color c => c.literal
  | pair first second => "(" ++ nested first ++ " . " ++ nested second ++ ")"
  | list items => "(" ++ " ".intercalate (nestedItems items) ++ ")"
  | associationList entries => "(" ++ " ".intercalate (nestedEntries entries) ++ ")"
  | procedure p => p.expression
def nestedItems : List Leaf → List String
  | [] => []
  | item :: items => nested item :: nestedItems items
def nestedEntries : List (Leaf × Leaf) → List String
  | [] => []
  | (key, value) :: entries => ("(" ++ nested key ++ " . " ++ nested value ++ ")") :: nestedEntries entries
end

def marker : String := "#"

/-- The sign of a literal that is not evaluated. -/
def quoteMark : String := "'"

/-- **The literal as an argument of its own.** -/
def topLevel (v : Leaf) : String :=
  if v.kind.isQuoted then marker ++ quoteMark ++ v.nested else marker ++ v.nested

end Leaf
end Partitura
