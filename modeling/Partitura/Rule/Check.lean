import Partitura.Rule
import Partitura.Text
import Partitura.Text.Shown
/-!
# Rule.Check — which rules are well-formed, and why a rule is refused

A rule enters a registry only if its name and its parameters' names are identifiers, its tag keeps to its alphabet, no
slot name occurs twice, and its delimiters stay on one line.  Faults are found in that order, parameters from left to
right.
-/
namespace Partitura

/-- **Why a rule or a definition is refused.** -/
inductive RuleError where
  /-- The name is no identifier. -/
  | invalidName (name : String)
  /-- The tag has a character outside its alphabet. -/
  | invalidTag (element tag : String)
  /-- The name of a parameter is no identifier. -/
  | invalidParameterName (element parameter : String)
  /-- Two parameters share a name. -/
  | duplicateParameter (element parameter : String)
  /-- A parameter has the name of a slot the rule has anyway. -/
  | reservedParameter (element parameter : String)
  /-- A delimiter spans lines. -/
  | invalidDelimiter (element delimiter : String)
  /-- The name is registered already. -/
  | duplicateElement (name : String)
  /-- The label is in no category vocabulary. -/
  | unknownCategory (label : String)
  /-- The label names no kind of value. -/
  | unknownKind (label : String)
  deriving DecidableEq

def RuleError.message : RuleError → String
  | invalidName name => "invalid element name: " ++ Text.shown name
  | invalidTag element tag => "invalid tag for `" ++ element ++ "`: " ++ Text.shown tag
  | invalidParameterName element parameter =>
    "invalid parameter name in `" ++ element ++ "`: " ++ Text.shown parameter
  | duplicateParameter element parameter => "duplicate parameter in `" ++ element ++ "`: " ++ parameter
  | reservedParameter element parameter =>
    "parameter `" ++ parameter ++ "` of `" ++ element ++ "` shadows the implicit slot of the same name"
  | invalidDelimiter element delimiter => "invalid delimiter for `" ++ element ++ "`: " ++ Text.shown delimiter
  | duplicateElement name => "element already registered: " ++ name
  | unknownCategory label => "unknown category: " ++ Text.shown label
  | unknownKind label => "unknown value kind: " ++ Text.shown label

namespace Rule

/-- An element name: a letter or underscore, then letters, digits and underscores. -/
def isElementName : List Char → Bool
  | [] => false
  | c :: cs => (Text.isLetter c || c == '_') && cs.all Text.isWordChar

/-- A parameter name: a letter, then letters, digits and underscores. -/
def isParameterName : List Char → Bool
  | [] => false
  | c :: cs => Text.isLetter c && cs.all Text.isWordChar

def isTagChar (c : Char) : Bool := Text.isWordChar c || c == '\\' || c == '/' || c == '%' || c == '-'

/-- Is this the name of a slot that the rule has besides its parameters? -/
def reserves (r : Rule) (name : String) : Bool :=
  (name == positionSlot && r.isAttachment) || (name == contentSlot && r.isContainer)

/-- Checks the parameters from left to right; `seen` are the names before them. -/
def checkParameters (r : Rule) : List String → List Parameter → Except RuleError Unit
  | _, [] => .ok ()
  | seen, p :: ps =>
    if !isParameterName p.name.toList then .error (.invalidParameterName r.name p.name)
    else if r.reserves p.name then .error (.reservedParameter r.name p.name)
    else if seen.contains p.name then .error (.duplicateParameter r.name p.name)
    else checkParameters r (p.name :: seen) ps

def checkDelimiter (r : Rule) (delimiter : String) : Except RuleError Unit :=
  if delimiter.toList.any fun c => c == '\n' || c == '\r' then .error (.invalidDelimiter r.name delimiter)
  else .ok ()

/-- **The first fault of a rule**, if it has one. -/
def check (r : Rule) : Except RuleError Unit := do
  if !isElementName r.name.toList then throw (.invalidName r.name)
  if !r.tag.toList.all isTagChar then throw (.invalidTag r.name r.tag)
  checkParameters r [] r.parameters
  checkDelimiter r r.opening
  checkDelimiter r r.closing

end Rule

end Partitura
