import Partitura.Yaml.Placed
/-!
# Yaml.Scalar — reading scalars that flow over lines

Between two words of a scalar there may be blanks and ends of lines.  Blanks on one line stay; a single end of a line
becomes a space; of several the first is dropped.  Blanks around ends of lines are dropped.
-/
namespace Partitura
namespace Yaml

/-- **What stands between two words of a scalar.** -/
structure Gap where
  /-- The blanks, as long as no line has ended. -/
  blanks : List Char
  /-- The ends of lines. -/
  breaks : List Char
  /-- Has a line ended? -/
  broken : Bool
  /-- Was the end of the first line escaped? -/
  escaped : Bool

namespace Gap

def none : Gap := ⟨[], [], false, false⟩

/-- The escaped end of a line, which leaves nothing. -/
def escapedBreak : Gap := ⟨[], [], true, true⟩

/-- One more character, which is a blank or the end of a line. -/
def add (g : Gap) (c : Char) : Gap :=
  if isBreak c then { g with blanks := [], breaks := g.breaks ++ [c], broken := true }
  else if g.broken then g
  else { g with blanks := g.blanks ++ [c] }

def isEmpty (g : Gap) : Bool := g.blanks.isEmpty && !g.broken

/-- **What is left of the gap** in the text. -/
def text (g : Gap) : List Char :=
  if !g.broken then g.blanks
  else if g.escaped then g.breaks
  else match g.breaks with
    | ['\n'] => [' ']
    | '\n' :: more => more
    | breaks => breaks

end Gap

/-- Characters before what a scanner has found. -/
def before {α : Type} (front : List Char) (found : Option (List Char × α)) : Option (List Char × α) :=
  found.map fun (text, rest) => (front ++ text, rest)

/-- **A scalar in single quotes**, behind the first of them. -/
def singleQuoted : Gap → List Placed → Option (List Char × List Placed)
  | _, [] => none
  | gap, p :: rest =>
    if isGap p.char then singleQuoted (gap.add p.char) rest
    else if isBoundary (p :: rest) then none
    else if p.char = '\'' then
      match rest with
      | ⟨'\'', _, _, _⟩ :: rest => before (gap.text ++ ['\'']) (singleQuoted .none rest)
      | rest => some (gap.text, rest)
    else before (gap.text ++ [p.char]) (singleQuoted .none rest)

/-- The character that a letter behind a backslash stands for. -/
def letterEscape? (letter : Char) : Option Char :=
  [('0', '\x00'), ('a', '\x07'), ('b', '\x08'), ('t', '\t'), ('\t', '\t'), ('n', '\n'), ('v', '\x0b'), ('f', '\x0c'),
    ('r', '\r'), ('e', '\x1b'), (' ', ' '), ('"', '"'), ('/', '/'), ('\\', '\\'), ('N', '\x85'), ('_', '\xa0'),
    ('L', '\u2028'), ('P', '\u2029')].lookup letter

def escapeWidth? (letter : Char) : Option Nat :=
  [('x', 2), ('u', 4), ('U', 8)].lookup letter

def hexDigit? (c : Char) : Option Nat :=
  if '0' ≤ c && c ≤ '9' then some (c.toNat - '0'.toNat)
  else if 'a' ≤ c && c ≤ 'f' then some (c.toNat - 'a'.toNat + 10)
  else if 'A' ≤ c && c ≤ 'F' then some (c.toNat - 'A'.toNat + 10)
  else none

/-- The character with the number that so many hexadecimal digits write, if it is a character. -/
def numberedChar? (width : Nat) (digits : List Placed) : Option Char := do
  let values ← (digits.take width).mapM fun p => hexDigit? p.char
  let n := values.foldl (fun n digit => 16 * n + digit) 0
  if values.length = width ∧ n.isValidChar then some (Char.ofNat n) else none

/-- **A scalar in double quotes**, behind the first of them.  The number counts the digits of an escape that are still
to be passed over. -/
def doubleQuoted : Nat → Gap → List Placed → Option (List Char × List Placed)
  | _, _, [] => none
  | skip + 1, gap, _ :: rest => doubleQuoted skip gap rest
  | 0, gap, p :: rest =>
    if isGap p.char then doubleQuoted 0 (gap.add p.char) rest
    else if isBoundary (p :: rest) then none
    else if p.char = '"' then some (gap.text, rest)
    else if p.char = '\\' then
      match rest with
      | [] => none
      | q :: rest =>
        if isBreak q.char then before gap.text (doubleQuoted 0 .escapedBreak rest)
        else match letterEscape? q.char, escapeWidth? q.char with
          | some c, _ => before (gap.text ++ [c]) (doubleQuoted 0 .none rest)
          | none, some width =>
            match numberedChar? width rest with
            | some c => before (gap.text ++ [c]) (doubleQuoted width .none rest)
            | none => none
          | none, none => none
    else before (gap.text ++ [p.char]) (doubleQuoted 0 .none rest)

def isFlowSign (c : Char) : Bool := ",[]\x7b\x7d".toList.contains c

/-- What a scanner of plain scalars has found: the text, whether it stopped behind the end of a line, and the rest. -/
abbrev PlainEnd := Bool × List Placed

/-- **A scalar without quotes.**  It ends before a colon that ends a word, before a comment, before a mark of a
document, in a flow collection before one of its signs, and elsewhere before a line that is not indented up to `floor`.
-/
def plain (inFlow : Bool) (floor : Nat) : Gap → List Placed → Option (List Char × PlainEnd)
  | gap, [] => some ([], gap.broken, [])
  | gap, p :: rest =>
    let stop := some ([], gap.broken, p :: rest)
    if isGap p.char then
      if gap.broken && p.char == '\t' && p.column < floor then none
      else plain inFlow floor (gap.add p.char) rest
    else if gap.broken && !inFlow && p.column < floor then stop
    else if isBoundary (p :: rest) then stop
    else if !gap.isEmpty && p.char == '#' then stop
    else if inFlow && p.char == ':' && rest.head?.any (fun q => q.char == '?' || isFlowSign q.char) then none
    else if p.char == ':' && endsWord rest then stop
    else if inFlow && isFlowSign p.char then stop
    else before (gap.text ++ [p.char]) (plain inFlow floor .none rest)

end Yaml
end Partitura
