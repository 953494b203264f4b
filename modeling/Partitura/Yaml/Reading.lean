import Partitura.Yaml.Document
import Partitura.Yaml.Lexer
import Partitura.Yaml.Writer
/-!
# Yaml.Reading — what a YAML text says

A plain scalar does for a text, and for what its word says; a scalar in quotes or in a block is a text.  A tag of the
language's own decides for itself what the scalar is, any other tag that is no local one leaves it a text.
-/
namespace Partitura
namespace Yaml

def flagTag : String := "tag:yaml.org,2002:bool"

def nothingTag : String := "tag:yaml.org,2002:null"

def numberTags : List String := ["tag:yaml.org,2002:int", "tag:yaml.org,2002:float"]

/-- A tag that means something in the document only. -/
def isLocalTag (tag : String) : Bool := tag.toList.head? == some '!'

/-- May a scalar with this tag be a text by itself? -/
def isTextTag (tag : String) : Bool :=
  tag != flagTag && tag != nothingTag && !numberTags.contains tag && !isLocalTag tag

/-- **What a scalar may be taken for.** -/
def scalarOf (text : String) (style : Style) (tag : Option String) : Scalar where
  text := some text
  word :=
    match tag with
    | none => if style == .plain && Word.of text != .text then none else some text
    | some tag => if isTextTag tag then some text else none
  flag := if style == .plain || (style == .literal && tag == some flagTag) then Word.flag? text else none
  isNothing := style == .plain && Word.isNothing text && tag.all (· == nothingTag)
  isBlank := style == .plain && text.isEmpty

mutual
def Node.reading (held : Nat → Reading) : Node → Reading
  | .scalar text style tag => .scalar (scalarOf text style tag)
  | .sequence tag items => .list false (!tag.any isLocalTag) (itemReadings held items)
  | .mapping entries => .record (entryReadings held entries)
  | .reference number => held number
def itemReadings (held : Nat → Reading) : List Node → List Reading
  | [] => []
  | item :: items => item.reading held :: itemReadings held items
/-- The entries of a mapping; a key that is no scalar is no text. -/
def entryReadings (held : Nat → Reading) : List (Node × Node) → List (Option String × Reading)
  | [] => []
  | (key, value) :: entries => ((key.reading held).text?, value.reading held) :: entryReadings held entries
end

/-- The readings of the anchored nodes by their numbers, references followed `depth` times. -/
def Anchors.readings (a : Anchors) : Nat → List Reading
  | 0 => []
  | depth + 1 =>
    let deeper := a.readings depth
    let held (number : Nat) : Reading := deeper[number]?.getD (.scalar .unreadable)
    (List.range a.names.length).map fun number => ((a.node? number).map (Node.reading held)).getD (.scalar .unreadable)

/-- **The reading of a document.**  On the way down from the root no anchored node is met twice unless it is part of
itself, so references are followed as often as there are anchored nodes, and once more. -/
def Document.reading (d : Document) : Reading :=
  let readings := d.anchors.readings (d.anchors.begun + 1)
  d.root.reading fun number => readings[number]?.getD (.scalar .unreadable)

/-- **The reading of a YAML text.** -/
def read? (text : String) : Option Reading :=
  (tokens? text >>= Document.ofTokens?).map Document.reading

/-- **The encoding of trees as YAML texts.** -/
def encoding : Data.Encoding := ⟨write, read?⟩

end Yaml
end Partitura
