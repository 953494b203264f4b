/-!
# Yaml.Token — what a document is made of

Scalars, the signs around and between them, and the levels of indentation, which open and close like brackets.
-/
namespace Partitura
namespace Yaml

/-- How a scalar is written. -/
inductive Style where
  | plain
  | quoted
  | literal
  | folded
  deriving DecidableEq

/-- **A token of a document.** -/
inductive Token where
  /-- The version of the language that the document is written in. -/
  | version (major minor : Nat)
  /-- What a handle of tags stands for. -/
  | handle (name expansion : String)
  | documentStart
  | documentEnd
  | blockSequenceStart
  | blockMappingStart
  /-- The end of a level of indentation. -/
  | blockEnd
  | flowSequenceStart
  | flowSequenceEnd
  | flowMappingStart
  | flowMappingEnd
  /-- The dash before an item. -/
  | blockEntry
  /-- The comma between two items. -/
  | flowEntry
  /-- A key follows. -/
  | key
  /-- The value of the last key follows. -/
  | value
  /-- A reference to an anchored node. -/
  | alias (name : String)
  /-- The name of the node that follows. -/
  | anchor (name : String)
  /-- The tag of the node that follows; without a handle it is complete. -/
  | tag (handle suffix : String)
  | scalar (text : String) (style : Style)
  deriving DecidableEq

end Yaml
end Partitura
