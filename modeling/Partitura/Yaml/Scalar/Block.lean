import Partitura.Yaml.Scalar
/-!
# Yaml.Scalar.Block — reading scalars that are made of whole lines

A block has a head (its sign, its indentation if the first line does not show it, and what becomes of the breaks at its
end) and then lines down to the first that is not indented enough.  A literal block keeps its lines; a folded one joins
lines that begin with no blank.
-/
namespace Partitura
namespace Yaml

/-- **What becomes of the breaks at the end of a block.** -/
inductive Chomp where
  /-- One stays. -/
  | clip
  /-- None stays. -/
  | strip
  /-- All stay. -/
  | keep
  deriving DecidableEq

/-- The head of a block behind its sign. -/
structure BlockHead where
  chomp : Chomp
  /-- The indentation beyond that of the surroundings, if it is given. -/
  indent : Option Nat

namespace BlockHead

/-- The sign for the breaks at the end. -/
def chomp? : List Placed → Option Chomp × List Placed
  | ⟨'+', _, _, _⟩ :: rest => (some .keep, rest)
  | ⟨'-', _, _, _⟩ :: rest => (some .strip, rest)
  | rest => (none, rest)

/-- The digit of the indentation, which may not be zero. -/
def digit? : List Placed → Option (Option Nat × List Placed)
  | [] => some (none, [])
  | p :: rest =>
    if p.char = '0' then none
    else if p.char.isDigit then some (some (p.char.toNat - '0'.toNat), rest)
    else some (none, p :: rest)

/-- The signs of a head, in either order. -/
def signs? (cs : List Placed) : Option (BlockHead × List Placed) :=
  match chomp? cs with
  | (some chomp, rest) => (digit? rest).map fun (indent, rest) => (⟨chomp, indent⟩, rest)
  | (none, rest) =>
    match digit? rest with
    | some (some indent, rest) =>
      let (chomp, rest) := chomp? rest
      some (⟨chomp.getD .clip, some indent⟩, rest)
    | some (none, rest) => some (⟨.clip, none⟩, rest)
    | none => none

end BlockHead

/-- The characters behind the rest of a line, which may hold blanks and a comment. -/
def endLine? (cs : List Placed) : Option (List Placed) :=
  let cs := cs.dropWhile fun p => isBlank p.char
  let cs := if cs.head?.any (·.char == '#') then cs.dropWhile fun p => !isBreak p.char else cs
  match cs with
  | [] => some []
  | p :: rest => if isBreak p.char then some rest else none

/-- The empty lines at the start of a block whose indentation is not given: their breaks, and the widest column reached.
-/
def leadingBreaks : Nat → List Placed → Option (List Char × Nat × List Placed)
  | widest, [] => some ([], widest, [])
  | widest, p :: rest =>
    if p.char = ' ' then leadingBreaks widest rest
    else if p.char = '\t' then none
    else if isBreak p.char then before [p.char] (leadingBreaks (max widest p.column) rest)
    else some ([], max widest p.column, p :: rest)

/-- The empty lines before the next line of a block; spaces beyond the indentation belong to that line. -/
def innerBreaks (indent : Nat) : List Placed → Option (List Char × List Placed)
  | [] => some ([], [])
  | p :: rest =>
    if p.column < indent && p.char == ' ' then innerBreaks indent rest
    else if p.column < indent && p.char == '\t' then none
    else if isBreak p.char then before [p.char] (innerBreaks indent rest)
    else some ([], p :: rest)

/-- What joins a line of a block to the one before it. -/
structure Joint where
  /-- The end of the line before, if there was a line. -/
  ending : List Char
  /-- The ends of the empty lines between. -/
  empties : List Char
  /-- Did the line before begin with a blank? -/
  afterBlank : Bool

/-- The joint as text before a line. -/
def Joint.text (j : Joint) (folds beginsBlank : Bool) : List Char :=
  if folds && j.ending == ['\n'] && !j.afterBlank && !beginsBlank then
    (if j.empties.isEmpty then [' '] else []) ++ j.empties
  else j.ending ++ j.empties

/-- The lines of a block, the joint behind the last of them, and the rest.  There are no more lines than characters. -/
def blockLines (folds : Bool) (indent : Nat) :
    Nat → Joint → List Placed → Option (List Char × Joint × List Placed)
  | 0, _, _ => none
  | _, joint, [] => some ([], joint, [])
  | fuel + 1, joint, p :: rest =>
    if p.column = indent then
      let line := (p :: rest).takeWhile fun q => !isBreak q.char
      let next := (p :: rest).dropWhile fun q => !isBreak q.char
      match innerBreaks indent (next.drop 1) with
      | some (empties, next') =>
        let here := isBlank p.char
        before (joint.text folds here ++ line.map (·.char))
          (blockLines folds indent fuel ⟨(next.take 1).map (·.char), empties, here⟩ next')
      | none => none
    else some ([], joint, p :: rest)

def Joint.chomped (j : Joint) : Chomp → List Char
  | .clip => j.ending
  | .strip => []
  | .keep => j.ending ++ j.empties

/-- **A block** behind its sign; `base` is the indentation of the surroundings, if there is one. -/
def block (folds : Bool) (base : Option Nat) (cs : List Placed) : Option (List Char × List Placed) := do
  let (head, rest) ← BlockHead.signs? cs
  let rest ← endLine? rest
  let (empties, indent, rest) ← match head.indent with
    | some more =>
      let indent := base.getD 0 + more
      (innerBreaks indent rest).map fun (empties, rest) => (empties, indent, rest)
    | none =>
      let least := base.elim 1 (· + 1)
      (leadingBreaks 0 rest).map fun (empties, widest, rest) => (empties, max widest least, rest)
  let (text, joint, rest) ← blockLines folds indent (rest.length + 1) ⟨[], empties, false⟩ rest
  return (text ++ joint.chomped head.chomp, rest)

end Yaml
end Partitura
