/-!
# Category — compatibility labels

Every element carries some of ten labels, and a container accepts children that share one with it.  The vocabulary is
closed; `Category.all` gives its order.
-/
namespace Partitura

/-- **One label** of the vocabulary. -/
inductive Category where
  | markup
  | attachment
  | music
  | comment
  | lyrics
  | chordMode
  | setting
  | field
  | scoreVariable
  | accent
  deriving DecidableEq

namespace Category

def all : List Category :=
  [markup, attachment, music, comment, lyrics, chordMode, setting, field, scoreVariable, accent]

/-- The label as catalogs and messages write it. -/
def label : Category → String
  | markup => "markup"
  | attachment => "attachment"
  | music => "music"
  | comment => "comment"
  | lyrics => "lyrics"
  | chordMode => "chordmode"
  | setting => "setting"
  | field => "field"
  | scoreVariable => "variable"
  | accent => "accent"

/-- The name as the set notation in braces writes it. -/
def name : Category → String
  | markup => "Markup"
  | attachment => "Attachment"
  | music => "Music"
  | comment => "Comment"
  | lyrics => "Lyrics"
  | chordMode => "ChordMode"
  | setting => "Setting"
  | field => "Field"
  | scoreVariable => "Variable"
  | accent => "Accent"

def ofLabel? (text : String) : Option Category :=
  all.find? (·.label == text)

/-- The place in the vocabulary, counted from zero. -/
def index : Category → Nat
  | markup => 0
  | attachment => 1
  | music => 2
  | comment => 3
  | lyrics => 4
  | chordMode => 5
  | setting => 6
  | field => 7
  | scoreVariable => 8
  | accent => 9

theorem index_lt (c : Category) : c.index < 10 := by cases c <;> decide

theorem index_inj {a b : Category} (h : a.index = b.index) : a = b := by
  cases a <;> cases b <;> first | rfl | (exact absurd h (by decide))

theorem mem_all (c : Category) : c ∈ all := by cases c <;> decide

theorem ofLabel?_label (c : Category) : ofLabel? c.label = some c := by cases c <;> decide

end Category
end Partitura
