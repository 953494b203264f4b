import Partitura.Registry
/-!
# Catalog.Definition — elements as a catalog defines them

A catalog names its format version and lists definitions.  A definition is a rule in words: categories and kinds stand
in it as labels, which may or may not be in the vocabulary.  Every rule can be written as a definition; a definition
whose labels are all known is a rule.
-/
namespace Partitura

/-- The kind of a parameter in words. -/
inductive KindDefinition where
  /-- The word for anything, or the label of a kind of value. -/
  | label (text : String)
  /-- The labels of the categories an element may have. -/
  | categories (labels : List String)
  deriving DecidableEq

/-- A parameter in words. -/
structure ParameterDefinition where
  name : String
  kind : KindDefinition
  optional : Bool
  deriving DecidableEq

/-- **A rule in words.** -/
structure Definition where
  name : String
  tag : String
  categories : List String
  parameters : List ParameterDefinition
  content : Option (List String)
  inline : Bool
  opening : String
  closing : String
  deriving DecidableEq

/-- **A catalog**: the version of its format, and its definitions in order. -/
structure Catalog where
  version : String
  elements : List Definition
  deriving DecidableEq

def anyLabel : String := "any"

/-- The category of a label that has to be known. -/
def Category.ofLabel (label : String) : Except RuleError Category :=
  match ofLabel? label with
  | some c => .ok c
  | none => .error (.unknownCategory label)

/-- The kind of a label that has to be known. -/
def LeafKind.ofLabel (label : String) : Except RuleError LeafKind :=
  match ofLabel? label with
  | some k => .ok k
  | none => .error (.unknownKind label)

/-- The set of labelled categories; the first unknown label is an error. -/
def CategorySet.ofLabels (labels : List String) : Except RuleError CategorySet :=
  CategorySet.ofList <$> labels.mapM Category.ofLabel

namespace KindDefinition

/-- The kind that the words stand for. -/
def toKind : KindDefinition → Except RuleError ParameterKind
  | label text => if text == anyLabel then .ok .any else .leaf <$> LeafKind.ofLabel text
  | categories labels => .node <$> CategorySet.ofLabels labels

def ofKind : ParameterKind → KindDefinition
  | .any => label anyLabel
  | .leaf kind => label kind.label
  | .node cs => categories cs.labels

end KindDefinition

namespace ParameterDefinition

/-- The parameter that the words stand for. -/
def toParameter (p : ParameterDefinition) : Except RuleError Parameter := do
  let kind ← p.kind.toKind
  return ⟨p.name, kind, p.optional⟩

def ofParameter (p : Parameter) : ParameterDefinition := ⟨p.name, .ofKind p.kind, p.optional⟩

end ParameterDefinition

namespace Definition

/-- **The rule that a definition stands for.**  Unknown labels are found in the order parameters, categories, content.
-/
def toRule (d : Definition) : Except RuleError Rule := do
  let parameters ← d.parameters.mapM ParameterDefinition.toParameter
  let categories ← CategorySet.ofLabels d.categories
  let content ← match d.content with
    | some labels => some <$> CategorySet.ofLabels labels
    | none => pure none
  return {
    name := d.name, tag := d.tag, categories, parameters, content, inline := d.inline
    opening := d.opening, closing := d.closing }

/-- **A rule in words.** -/
def ofRule (r : Rule) : Definition where
  name := r.name
  tag := r.tag
  categories := r.categories.labels
  parameters := r.parameters.map .ofParameter
  content := r.content.map CategorySet.labels
  inline := r.inline
  opening := r.opening
  closing := r.closing

end Definition

namespace Catalog

/-- The format version that new catalogs carry. -/
def currentVersion : String := "1.0"

/-- A catalog without definitions. -/
def empty : Catalog := ⟨currentVersion, []⟩

/-- All rules of a registry as a catalog. -/
def ofRegistry (g : Registry) : Catalog := ⟨currentVersion, g.rules.map .ofRule⟩

/-- Is this format version one that can be read?  The part before the first point has to be `1`. -/
def isSupported (version : String) : Bool := version.toList.takeWhile (· != '.') == ['1']

/-- Registers definitions one after the other; at the first that is refused the registry stands as it was reached. -/
def registerAll : Registry → List Definition → Registry × Option RuleError
  | g, [] => (g, none)
  | g, d :: ds =>
    match d.toRule >>= g.register with
    | .ok g => registerAll g ds
    | .error e => (g, some e)

/-- **Registers a whole catalog.**  The registry that comes out holds the definitions before the one that was refused,
if one was. -/
def registerInto (c : Catalog) (g : Registry) : Registry × Option RuleError := registerAll g c.elements

end Catalog
end Partitura
