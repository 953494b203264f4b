import Partitura.Leaf.Equality
import Partitura.Position
import Partitura.Tone.Sound
/-!
# Element — the tree of a score

An element is a node of some rule, a toggle, a tone, a word of markup or a comment.  A node holds the values of its
parameters, its position and, for a container, its children; elements stand in all three places, so the types are
defined together.  A toggle is one mark shared by the places where a span opens and closes: copies of it keep its `id`,
and the number of times it has been shown is counted under that `id`.
-/
namespace Partitura

mutual
/-- **Whatever stands in a container, in a parameter or after a tone.** -/
inductive Element where
  | node (node : Node)
  | toggle (toggle : Toggle)
  | tone (tone : Tone)
  /-- A word of markup. -/
  | text (words : String)
  | comment (remark : String)
/-- **An element of some rule.** -/
structure Node where
  rule : Rule
  position : Position
  /-- The bound parameters and their values, in the order of the rule. -/
  parameters : List (String × Value)
  /-- The children; absent for a command. -/
  children : Option (List Element)
/-- The value of a parameter. -/
inductive Value where
  | leaf (leaf : Leaf)
  | element (element : Element)
/-- **A mark that opens and closes spans in turn.** -/
structure Toggle where
  /-- What tells it from every other toggle. -/
  id : Nat
  opening : String
  closing : Closing
/-- What closes a span: a mark, or a node in its place. -/
inductive Closing where
  | mark (text : String)
  | node (node : Node)
/-- **A sound and what is attached to it.** -/
structure Tone where
  sound : Sound
  attachments : List Element
end

def hairpinEnd : String := "\\!"

namespace Toggle

def marks (id : Nat) (opening closing : String) : Toggle := ⟨id, opening, .mark closing⟩

def slur (id : Nat) : Toggle := marks id "(" ")"

def phrasingSlur (id : Nat) : Toggle := marks id "\\(" "\\)"

def beam (id : Nat) : Toggle := marks id "[" "]"

/-- A hairpin, which ends at its sign or at an inline attachment in its place. -/
def hairpin (id : Nat) (opening : String) : Option Node → Except ScoreError Toggle
  | none => .ok ⟨id, opening, .mark hairpinEnd⟩
  | some n =>
    if n.rule.isAttachment && n.rule.inline then .ok ⟨id, opening, .node n⟩
    else .error (.invalidArgument (.badHairpinEnd n.rule.name))

def crescendo (id : Nat) (closing : Option Node) : Except ScoreError Toggle := hairpin id "\\<" closing

def decrescendo (id : Nat) (closing : Option Node) : Except ScoreError Toggle := hairpin id "\\>" closing

end Toggle

namespace Element

def categories : Element → CategorySet
  | node n => n.rule.categories
  | toggle _ => .single .attachment
  | tone _ => .single .music
  | text _ => .single .markup
  | comment _ => .single .comment

def isInline : Element → Bool
  | node n => n.rule.inline
  | comment _ => false
  | toggle _ | tone _ | text _ => true

/-- The element as messages call it. -/
def describe : Element → String
  | node n => "element `" ++ n.rule.name ++ "`"
  | toggle t => "toggle `" ++ t.opening ++ "`"
  | tone _ => "tone"
  | text words => "markup text " ++ Text.shown words
  | comment _ => "comment"

end Element

namespace Tone

def ofSound (s : Sound) : Tone := ⟨s, []⟩

/-- **The tone with one more attachment**, which has to be one by its categories. -/
def attach (t : Tone) (e : Element) : Except ScoreError Tone :=
  if e.categories.contains .attachment then .ok { t with attachments := t.attachments ++ [e] }
  else .error (.invalidArgument (.notAttachable e.describe))

end Tone
end Partitura
