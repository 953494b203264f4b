import Partitura.Category.Set
import Partitura.Leaf.Kind
/-!
# Rule — what an element is declared to be

A rule names an element, gives the tag it is written with, the categories it carries, its parameters in binding order,
and for containers the categories of its children.  Besides its parameters an attachment has a slot for its position and
a container one for its content.  Rules are plain data; `Rule.check` says which are well-formed.
-/
namespace Partitura

/-- **What a parameter accepts.** -/
inductive ParameterKind where
  /-- Any literal value or element. -/
  | any
  /-- A literal value whose kind this one accepts. -/
  | leaf (kind : LeafKind)
  /-- An element that shares a category with the set. -/
  | node (categories : CategorySet)
  deriving DecidableEq

def ParameterKind.text : ParameterKind → String
  | any => "anything"
  | leaf kind => kind.label
  | node categories => "element of " ++ categories.text

/-- One declared parameter. -/
structure Parameter where
  name : String
  kind : ParameterKind
  optional : Bool
  deriving DecidableEq

/-- **The declaration of an element.** -/
structure Rule where
  /-- The name it is looked up by. -/
  name : String
  /-- The text it is written with. -/
  tag : String
  /-- The categories its elements carry. -/
  categories : CategorySet
  /-- The parameters, in binding order. -/
  parameters : List Parameter
  /-- The categories of its children; absent for a command, which has none. -/
  content : Option CategorySet
  /-- Does an element stay on the line of an inline neighbour? -/
  inline : Bool
  opening : String
  closing : String
  deriving DecidableEq

namespace Rule

def positionSlot : String := "position"

def contentSlot : String := "content"

def defaultOpening : String := "\x7b"

def defaultClosing : String := "\x7d"

/-- A rule without parameters whose elements have no children. -/
def command (name tag : String) (categories : CategorySet) : Rule where
  name := name
  tag := tag
  categories := categories
  parameters := []
  content := none
  inline := false
  opening := defaultOpening
  closing := defaultClosing

/-- A rule without parameters whose elements have children of the given categories. -/
def container (name tag : String) (categories content : CategorySet) : Rule :=
  { command name tag categories with content := some content }

/-- Do its elements have children, be it that none are allowed? -/
def isContainer (r : Rule) : Bool := r.content.isSome

def isAttachment (r : Rule) : Bool := r.categories.contains .attachment

/-- The first parameter of that name. -/
def parameter? (r : Rule) (name : String) : Option Parameter := r.parameters.find? (·.name == name)

/-- **The slots in binding order**: the parameters, the position of an attachment, the content of a container. -/
def slotNames (r : Rule) : List String :=
  r.parameters.map (·.name) ++ (if r.isAttachment then [positionSlot] else []) ++
    (if r.isContainer then [contentSlot] else [])

end Rule
end Partitura
