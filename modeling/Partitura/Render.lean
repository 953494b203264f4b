import Partitura.Element.Equality
import Partitura.Layout
/-!
# Render — the text of an element, and of a whole score

Rendering goes through a tree in one order: the parameters of a node, then its children; a tone, then its attachments.
A toggle shows its opening mark when it has been shown an even number of times, its closing otherwise; the counts go
into a rendering and come out of it.
-/
namespace Partitura

/-- **How often each toggle has been shown**, by its `id`. -/
abbrev Counters := Nat → Nat

namespace Counters

def start : Counters := fun _ => 0

def advance (c : Counters) (id : Nat) : Counters := fun i => if i = id then c i + 1 else c i

/-- One toggle as if it had not been shown. -/
def reset (c : Counters) (id : Nat) : Counters := fun i => if i = id then 0 else c i

end Counters

/-- Characters that a bare word of markup may not have. -/
def isMarkupSpecial (c : Char) : Bool := "\\\x7b\x7d\"#$%=^_~".toList.contains c

/-- A word of markup that needs no quotes. -/
def isBareWord (cs : List Char) : Bool :=
  !cs.isEmpty && cs.all fun c => !Text.isBlank c && !isMarkupSpecial c

/-- **A word of markup**, in quotes where it needs them. -/
def markupText (words : String) : String :=
  if isBareWord words.toList then words else Text.quoted words

/-- A remark with a blank in every closing mark. -/
def partClosings : List Char → List Char
  | '%' :: '}' :: cs => '%' :: ' ' :: '}' :: partClosings cs
  | c :: cs => c :: partClosings cs
  | [] => []

/-- **A comment**, which ends only where it should. -/
def commentText (remark : String) : String :=
  String.ofList (['%', '{', ' '] ++ partClosings remark.toList ++ [' ', '%', '}'])

mutual
/-- **The text of an element** at a level, and the counts after it. -/
def Element.render : Element → Nat → Counters → String × Counters
  | .node n, indent, c => Node.render n indent c
  | .toggle t, _, c => Toggle.render t c
  | .tone t, _, c => Tone.render t c
  | .text words, _, c => (markupText words, c)
  | .comment remark, _, c => (commentText remark, c)
  termination_by structural e => e
/-- The text of a node: its position and tag, its parameters, its children. -/
def Node.render : Node → Nat → Counters → String × Counters
  | ⟨r, p, vs, none⟩, indent, c =>
    let (values, c) := renderParameters vs indent c
    (Layout.join ((p.marker ++ r.tag) :: values), c)
  | ⟨r, p, vs, some children⟩, indent, c =>
    let (values, c) := renderParameters vs indent c
    let (siblings, c) := renderSiblings children (Layout.childIndent indent children.length) c
    (Layout.container ((p.marker ++ r.tag) :: values) r.opening r.closing indent siblings, c)
  termination_by structural n => n
def Value.render : Value → Nat → Counters → String × Counters
  | .leaf v, _, c => (v.topLevel, c)
  | .element e, indent, c => Element.render e indent c
  termination_by structural v => v
def Toggle.render : Toggle → Counters → String × Counters
  | ⟨id, opening, closing⟩, c =>
    if c id % 2 = 0 then (opening, c.advance id) else Closing.render closing (c.advance id)
  termination_by structural t => t
def Closing.render : Closing → Counters → String × Counters
  | .mark text, c => (text, c)
  | .node n, c => Node.render n 0 c
  termination_by structural closing => closing
def Tone.render : Tone → Counters → String × Counters
  | ⟨sound, attachments⟩, c =>
    let (texts, c) := renderAttachments attachments c
    (sound.text ++ String.join texts, c)
  termination_by structural t => t
def renderParameters : List (String × Value) → Nat → Counters → List String × Counters
  | [], _, c => ([], c)
  | (_, v) :: vs, indent, c =>
    let (text, c) := Value.render v indent c
    let (texts, c) := renderParameters vs indent c
    (text :: texts, c)
  termination_by structural vs => vs
def renderSiblings : List Element → Nat → Counters → List Layout.Sibling × Counters
  | [], _, c => ([], c)
  | e :: es, indent, c =>
    let (text, c) := Element.render e indent c
    let (siblings, c) := renderSiblings es indent c
    (⟨e.isInline, text⟩ :: siblings, c)
  termination_by structural es => es
/-- The texts of attachments, which all stand at the outermost level. -/
def renderAttachments : List Element → Counters → List String × Counters
  | [], c => ([], c)
  | e :: es, c =>
    let (text, c) := Element.render e 0 c
    let (texts, c) := renderAttachments es c
    (text :: texts, c)
  termination_by structural es => es
end

/-! ## Documents -/

/-- **A score**: the version of the language it is written for, if it names one, and its elements. -/
structure Document where
  version : Option String
  elements : List Element
  deriving DecidableEq

namespace Document

/-- A score without elements. -/
def empty (version : Option String) : Document := ⟨version, []⟩

def push (d : Document) (e : Element) : Document := { d with elements := d.elements ++ [e] }

def versionLine : Option String → String
  | none => ""
  | some version => "\\version " ++ Text.quoted version ++ "\n"

/-- **The text of a score**, and the counts after it. -/
def render (d : Document) (c : Counters) : String × Counters :=
  let (siblings, c) := renderSiblings d.elements 0 c
  (versionLine d.version ++ Layout.document siblings, c)

end Document

end Partitura
