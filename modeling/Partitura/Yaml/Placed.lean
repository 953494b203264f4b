/-!
# Yaml.Placed — characters and where they stand

A text is read from its characters, each with its line, its column and its place in the whole text.  The ways to end a
line are one line feed by then, except for the two separators beyond ASCII, which keep their character.
-/
namespace Partitura
namespace Yaml

/-- **A character and where it stands.** -/
structure Placed where
  char : Char
  line : Nat
  column : Nat
  index : Nat

def isBreak (c : Char) : Bool := c == '\n' || c == '\u2028' || c == '\u2029'

def isBlank (c : Char) : Bool := c == ' ' || c == '\t'

def isGap (c : Char) : Bool := isBlank c || isBreak c

/-- Does a word end here: at a blank, at the end of a line, or at the end of all? -/
def endsWord : List Placed → Bool
  | [] => true
  | p :: _ => isGap p.char

/-- Does a mark of a document stand here: three dashes or three points, at the start of a line, with nothing behind
them? -/
def isBoundary : List Placed → Bool
  | ⟨a, _, column, _⟩ :: ⟨b, _, _, _⟩ :: ⟨c, _, _, _⟩ :: rest =>
    column == 0 && a == b && b == c && (a == '-' || a == '.') && endsWord rest
  | _ => false

/-- Characters that a document may have. -/
def isAllowed (c : Char) : Bool :=
  let n := c.toNat
  n == 0x09 || n == 0x0A || n == 0x0D || (0x20 ≤ n && n ≤ 0x7E) || n == 0x85 ||
    (0xA0 ≤ n && n != 0xFFFE && n != 0xFFFF)

/-- Every end of a line as a line feed, the two separators beyond ASCII apart. -/
def unifyBreaks : List Char → List Char
  | '\r' :: '\n' :: cs => '\n' :: unifyBreaks cs
  | c :: cs => (if c = '\r' ∨ c = '\x85' then '\n' else c) :: unifyBreaks cs
  | [] => []

/-- Characters with their places, the first of which is given. -/
def placedFrom : Nat → Nat → Nat → List Char → List Placed
  | _, _, _, [] => []
  | line, column, index, c :: cs =>
    ⟨c, line, column, index⟩ ::
      if isBreak c then placedFrom (line + 1) 0 (index + 1) cs else placedFrom line (column + 1) (index + 1) cs

/-- The byte order mark.  A document may begin with it, and it counts as a column of its line. -/
def byteOrderMark : Char := '\uFEFF'

/-- **The characters of a document**, if all of them are allowed. -/
def placed? (text : String) : Option (List Placed) :=
  let cs := text.toList
  if cs.all isAllowed then some (placedFrom 0 0 0 (unifyBreaks cs)) else none

end Yaml
end Partitura
