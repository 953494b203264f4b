import Partitura.Catalog.Definition
import Partitura.Data
/-!
# Catalog.Data — catalogs as trees of data

A field whose value is the usual one is left out on writing: no parameters, no content, not inline, not optional, the
usual delimiters.  An empty content is not the usual one, which is to have none.  On reading, fields that were left out
take the usual value.  A kind is a word or a list of words; the other texts take any scalar by its characters.  Fields
that have no meaning here are passed over.
-/
namespace Partitura

/-! ## Writing -/

/-- A field, unless its value is the usual one. -/
def fieldUnless (usual : Bool) (name : String) (value : Data) : List (String × Data) :=
  if usual then [] else [(name, value)]

/-- A kind as a label or a list of labels. -/
def KindDefinition.toData : KindDefinition → Data
  | label text => .text text
  | categories labels => .texts labels

/-- The fields of a parameter. -/
def ParameterDefinition.fields (p : ParameterDefinition) : List (String × Data) :=
  [("name", .text p.name), ("kind", p.kind.toData)] ++ fieldUnless (!p.optional) "optional" (.flag p.optional)

/-- A parameter as a record. -/
def ParameterDefinition.toData (p : ParameterDefinition) : Data := .record p.fields

/-- The content as a field, if there is one. -/
def Definition.contentField : Option (List String) → List (String × Data)
  | none => []
  | some labels => [("content", .texts labels)]

/-- The fields of a definition. -/
def Definition.fields (d : Definition) : List (String × Data) :=
  [("name", .text d.name), ("tag", .text d.tag), ("categories", .texts d.categories)] ++
    fieldUnless d.parameters.isEmpty "parameters" (.list (d.parameters.map ParameterDefinition.toData)) ++
    contentField d.content ++
    fieldUnless (!d.inline) "inline" (.flag d.inline) ++
    fieldUnless (d.opening == Rule.defaultOpening) "delimiter_open" (.text d.opening) ++
    fieldUnless (d.closing == Rule.defaultClosing) "delimiter_close" (.text d.closing)

/-- **A definition as a record.** -/
def Definition.toData (d : Definition) : Data := .record d.fields

/-- The fields of a catalog. -/
def Catalog.fields (c : Catalog) : List (String × Data) :=
  [("version", .text c.version), ("elements", .list (c.elements.map Definition.toData))]

/-- **A catalog as a record.** -/
def Catalog.toData (c : Catalog) : Data := .record c.fields

/-! ## Reading -/

def Category.ofReading? (r : Reading) : Option Category := r.term? >>= ofLabel?

def LeafKind.ofReading? (r : Reading) : Option LeafKind := r.term? >>= ofLabel?

def CategorySet.ofReading? (r : Reading) : Option CategorySet :=
  CategorySet.ofList <$> (r.items? >>= List.mapM Category.ofReading?)

/-- A kind from a word or a list of words. -/
def KindDefinition.ofReading? (r : Reading) : Option KindDefinition :=
  label <$> r.word? <|> categories <$> r.words?

/-- A parameter from a record. -/
def ParameterDefinition.ofReading? (r : Reading) : Option ParameterDefinition := do
  let fields ← r.fields? ["name", "kind", "optional"]
  let name ← Reading.required fields "name" Reading.text?
  let kind ← Reading.required fields "kind" KindDefinition.ofReading?
  let optional ← Reading.defaulting fields "optional" false Reading.flag?
  return ⟨name, kind, optional⟩

/-- The content of an element, which may be said to be absent. -/
def Definition.contentOfReading? (r : Reading) : Option (Option (List String)) :=
  if r.isNothing then some none else some <$> r.texts?

def Definition.fieldNames : List String :=
  ["name", "tag", "categories", "parameters", "content", "inline", "delimiter_open", "delimiter_close"]

/-- **A definition from a record.** -/
def Definition.ofReading? (r : Reading) : Option Definition := do
  let fields ← r.fields? fieldNames
  let name ← Reading.required fields "name" Reading.text?
  let tag ← Reading.required fields "tag" Reading.text?
  let categories ← Reading.required fields "categories" Reading.texts?
  let parameters ← Reading.defaulting fields "parameters" [] fun r =>
    r.items? >>= List.mapM ParameterDefinition.ofReading?
  let content ← Reading.defaulting fields "content" none contentOfReading?
  let inline ← Reading.defaulting fields "inline" false Reading.flag?
  let opening ← Reading.defaulting fields "delimiter_open" Rule.defaultOpening Reading.text?
  let closing ← Reading.defaulting fields "delimiter_close" Rule.defaultClosing Reading.text?
  return { name, tag, categories, parameters, content, inline, opening, closing }

/-- **A catalog from a record**, whatever its version. -/
def Catalog.ofReading? (r : Reading) : Option Catalog := do
  let fields ← r.fields? ["version", "elements"]
  let version ← Reading.required fields "version" Reading.text?
  let elements ← Reading.defaulting fields "elements" [] fun r => r.items? >>= List.mapM Definition.ofReading?
  return ⟨version, elements⟩

end Partitura
