/-!
# Layout — where words go

How the parts of one element are put on lines.  Parts of a line are joined by single spaces, empty ones left out.  A
container with at most one child stays on its line; two or more stand on lines of their own one level deeper, except
that an inline child follows an inline one on the same line.  The closing delimiter then has a line of its own, too.
-/
namespace Partitura
namespace Layout

def indentUnit : String := "  "

/-- The space before a line of some level. -/
def margin (indent : Nat) : String := String.join (List.replicate indent indentUnit)

def newline (indent : Nat) : String := "\n" ++ margin indent

/-- **The parts of a line**, empty ones left out. -/
def join (parts : List String) : String := " ".intercalate (parts.filter fun part => !part.isEmpty)

/-- One of several elements that follow each other. -/
structure Sibling where
  inline : Bool
  text : String

/-- Children on lines of their own, each behind its break; `after` says that an inline one went before. -/
def block (indent : Nat) : Bool → List Sibling → String
  | _, [] => ""
  | after, s :: rest =>
    (if after && s.inline then " " else newline indent) ++ s.text ++ block indent s.inline rest

/-- **A container**: its head, its delimiters and its children. -/
def container (head : List String) (opening closing : String) (indent : Nat) : List Sibling → String
  | [] => join (head ++ [opening, closing])
  | [s] => join (head ++ [opening, s.text, closing])
  | siblings => join (head ++ [opening]) ++ block (indent + 1) false siblings ++ newline indent ++ closing

/-- The level at which the children of a container are written. -/
def childIndent (indent count : Nat) : Nat := if count ≤ 1 then indent else indent + 1

/-- The elements of a document after one that was inline or not, up to the end of the last line. -/
def following : Bool → List Sibling → String
  | _, [] => "\n"
  | after, s :: rest => (if after && s.inline then " " else "\n") ++ s.text ++ following s.inline rest

/-- **The elements of a document.** -/
def document : List Sibling → String
  | [] => ""
  | s :: rest => s.text ++ following s.inline rest

end Layout
end Partitura
