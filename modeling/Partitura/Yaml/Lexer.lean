import Partitura.Yaml.Tag
/-!
# Yaml.Lexer — from characters to tokens

Outside brackets a token that is further to the right than its surroundings opens a level of indentation, and one that
is further to the left closes levels.  That a token began a key is seen only at the colon behind its node.  Therefore
the place of every token that may begin a key is remembered, one for each pair of brackets that is open, and the sign of
the key goes before that token when the colon comes.  A key without a sign of its own stays on one line and within 1024
characters.
-/
namespace Partitura
namespace Yaml

/-- **A node that may turn out to be a key.** -/
structure PossibleKey where
  /-- The number of tokens before it. -/
  token : Nat
  line : Nat
  column : Nat
  index : Nat
  /-- Does the level of indentation leave nothing else for it to be? -/
  required : Bool

def PossibleKey.reaches (k : PossibleKey) (p : Placed) : Bool := p.line ≤ k.line && p.index ≤ k.index + 1024

/-- **What has been read so far.** -/
structure Lexer where
  tokens : Array Token
  /-- The columns of the open levels of indentation, the innermost first. -/
  levels : List Nat
  /-- May a key begin here? -/
  keyAllowed : Bool
  /-- The node that may be a key inside the innermost brackets. -/
  key : Option PossibleKey
  /-- Those inside the brackets around them. -/
  outerKeys : List (Option PossibleKey)

namespace Lexer

def start : Lexer := ⟨#[], [], true, none, []⟩

def inFlow (l : Lexer) : Bool := !l.outerKeys.isEmpty

/-- The least column that is further to the right than the surroundings. -/
def floor (l : Lexer) : Nat := l.levels.head?.elim 0 (· + 1)

def push (l : Lexer) (t : Token) : Lexer := { l with tokens := l.tokens.push t }

/-- Keys may or may not begin from here on. -/
def allowKey (l : Lexer) (allowed : Bool) : Lexer := { l with keyAllowed := allowed }

/-- Opens a level of indentation at a column further to the right; its token goes to a place among the others. -/
def openLevel (l : Lexer) (column place : Nat) (t : Token) : Lexer :=
  if l.inFlow || column < l.floor then l
  else { l with levels := column :: l.levels, tokens := l.tokens.insertIdxIfInBounds place t }

/-- Closes the levels of indentation that lie at `floor` or further to the right. -/
def closeLevels (floor : Nat) : List Nat → Array Token → List Nat × Array Token
  | [], tokens => ([], tokens)
  | level :: levels, tokens =>
    if floor ≤ level then closeLevels floor levels (tokens.push .blockEnd) else (level :: levels, tokens)

def closeTo (l : Lexer) (floor : Nat) : Lexer :=
  if l.inFlow then l
  else
    let (levels, tokens) := closeLevels floor l.levels l.tokens
    { l with levels, tokens }

/-- The possible key has turned out to be none, which is a fault if it had to be one. -/
def dropKey (l : Lexer) : Option Lexer :=
  if l.key.any (·.required) then none else some { l with key := none }

/-- The next token may begin a key, if a key may begin here. -/
def saveKey (l : Lexer) (p : Placed) : Option Lexer :=
  if !l.keyAllowed then some l
  else do
    let l ← l.dropKey
    let required := !l.inFlow && l.levels.head? == some p.column
    return { l with key := some ⟨l.tokens.size, p.line, p.column, p.index, required⟩ }

/-- Passes over blanks, comments, ends of lines and a byte order mark at the very beginning; outside brackets a key may
begin on a new line.  Tabs are no blanks where a key may begin. -/
def skip (inFlow : Bool) : Bool → Bool → List Placed → Bool × List Placed
  | allowed, _, [] => (allowed, [])
  | allowed, inComment, p :: rest =>
    if isBreak p.char then skip inFlow (allowed || !inFlow) false rest
    else if inComment then skip inFlow allowed true rest
    else if p.char = ' ' || (p.char = '\t' && (inFlow || !allowed)) || (p.char = byteOrderMark && p.index = 0) then
      skip inFlow allowed false rest
    else if p.char = '#' then skip inFlow allowed true rest
    else (allowed, p :: rest)

/-- The end of all levels before a directive, a mark of a document or the end of the text. -/
def leaveDocument (l : Lexer) : Option Lexer := do
  let l ← (l.closeTo 0).dropKey
  return l.allowKey false

def openFlow (l : Lexer) (p : Placed) (t : Token) : Option Lexer := do
  let l ← l.saveKey p
  return { l.push t with key := none, outerKeys := l.key :: l.outerKeys, keyAllowed := true }

def closeFlow (l : Lexer) (t : Token) : Option Lexer := do
  let l ← l.dropKey
  let l := match l.outerKeys with
    | key :: keys => { l with key := key, outerKeys := keys }
    | [] => { l with key := none }
  return (l.push t).allowKey false

def flowEntry (l : Lexer) : Option Lexer := do
  let l ← l.dropKey
  return (l.push .flowEntry).allowKey true

/-- A dash.  Outside brackets it opens a sequence if it is further to the right. -/
def blockEntry (l : Lexer) (p : Placed) : Option Lexer := do
  if !l.inFlow && !l.keyAllowed then failure
  let l ← (l.openLevel p.column l.tokens.size .blockSequenceStart).dropKey
  return (l.push .blockEntry).allowKey true

/-- A question mark before a key.  Outside brackets it opens a mapping if it is further to the right. -/
def keySign (l : Lexer) (p : Placed) : Option Lexer := do
  if !l.inFlow && !l.keyAllowed then failure
  let l ← (l.openLevel p.column l.tokens.size .blockMappingStart).dropKey
  return (l.push .key).allowKey (!l.inFlow)

/-- A colon.  The node before it is a key if it may be one and the colon is within its reach. -/
def valueSign (l : Lexer) (p : Placed) : Option Lexer :=
  match l.key with
  | some key =>
    if key.reaches p then
      let l := { l with tokens := l.tokens.insertIdxIfInBounds key.token .key, key := none }
      let l := l.openLevel key.column key.token .blockMappingStart
      some ((l.push .value).allowKey false)
    else if key.required then none
    else unkeyedValue { l with key := none }
  | none => unkeyedValue l
where
  /-- A colon whose key has a sign of its own, or which has none. -/
  unkeyedValue (l : Lexer) : Option Lexer := do
    if !l.inFlow && !l.keyAllowed then failure
    let l := l.openLevel p.column l.tokens.size .blockMappingStart
    return (l.push .value).allowKey (!l.inFlow)

def boundary (l : Lexer) (p : Placed) : Option Lexer := do
  let l ← l.leaveDocument
  return l.push (if p.char = '-' then .documentStart else .documentEnd)

/-- A token that may begin a key, read by a function of the characters. -/
def keyToken (l : Lexer) (p : Placed) (found : Option (Token × List Placed)) : Option (Lexer × List Placed) := do
  let l ← l.saveKey p
  let (token, rest) ← found
  return ((l.push token).allowKey false, rest)

def scalarToken (style : Style) (found : Option (List Char × List Placed)) : Option (Token × List Placed) :=
  found.map fun (text, rest) => (.scalar (String.ofList text) style, rest)

def blockScalar (l : Lexer) (style : Style) (rest : List Placed) : Option (Lexer × List Placed) := do
  let l ← l.dropKey
  let (text, rest) ← block (style == .folded) l.levels.head? rest
  return ((l.push (.scalar (String.ofList text) style)).allowKey true, rest)

/-- A scalar without quotes.  If it stopped behind the end of a line, a key may begin there. -/
def plainScalar (l : Lexer) (p : Placed) (cs : List Placed) : Option (Lexer × List Placed) := do
  let l ← l.saveKey p
  let (text, broken, rest) ← plain l.inFlow l.floor .none cs
  return ((l.push (.scalar (String.ofList text) .plain)).allowKey broken, rest)

/-- The signs that a scalar without quotes may not begin with. -/
def isSign (c : Char) : Bool := "-?:,[]\x7b\x7d#&*!|>'\"%@\x60".toList.contains c

/-- May a scalar without quotes begin here?  A dash, a question mark or a colon may begin one if a word goes on behind
it. -/
def beginsPlain (l : Lexer) (p : Placed) (rest : List Placed) : Bool :=
  !isSign p.char || (p.char == '-' && !endsWord rest) ||
    (!l.inFlow && (p.char == '?' || p.char == ':') && !endsWord rest)

/-- The token that begins with a character that is no blank, outside marks and directives. -/
def read (l : Lexer) (p : Placed) (rest : List Placed) : Option (Lexer × List Placed) :=
  let alone := l.inFlow || endsWord rest
  let sign (found : Option Lexer) := found.map (·, rest)
  match p.char with
  | '[' => sign (l.openFlow p .flowSequenceStart)
  | '{' => sign (l.openFlow p .flowMappingStart)
  | ']' => sign (l.closeFlow .flowSequenceEnd)
  | '}' => sign (l.closeFlow .flowMappingEnd)
  | ',' => sign l.flowEntry
  | '*' => l.keyToken p ((anchorName? rest).map fun (name, rest) => (.alias name, rest))
  | '&' => l.keyToken p ((anchorName? rest).map fun (name, rest) => (.anchor name, rest))
  | '!' => l.keyToken p (tag? l.inFlow (p :: rest))
  | '\'' => l.keyToken p (scalarToken .quoted (singleQuoted .none rest))
  | '"' => l.keyToken p (scalarToken .quoted (doubleQuoted 0 .none rest))
  | c =>
    if c = '-' && endsWord rest then sign (l.blockEntry p)
    else if c = '?' && alone then sign (l.keySign p)
    else if c = ':' && alone then sign (l.valueSign p)
    else if c = '|' && !l.inFlow then l.blockScalar .literal rest
    else if c = '>' && !l.inFlow then l.blockScalar .folded rest
    else if l.beginsPlain p rest then l.plainScalar p (p :: rest)
    else none

def directive (l : Lexer) (rest : List Placed) : Option (Lexer × List Placed) := do
  let l ← l.leaveDocument
  let (token, rest) ← directive? rest
  return (l.push token, rest)

/-- Reads tokens up to the end of the text; each takes at least one character. -/
def run : Nat → Lexer → List Placed → Option Lexer
  | 0, _, _ => none
  | fuel + 1, l, cs =>
    let (allowed, cs) := skip l.inFlow l.keyAllowed false cs
    let l := l.allowKey allowed
    match cs with
    | [] => l.leaveDocument
    | p :: rest => do
      let l := l.closeTo (p.column + 1)
      let (l, rest) ←
        if p.column = 0 ∧ p.char = '%' then l.directive rest
        else if isBoundary (p :: rest) then (l.boundary p).map (·, rest.drop 2)
        else l.read p rest
      run fuel l rest

end Lexer

/-- **The tokens of a document.** -/
def tokens? (text : String) : Option (List Token) := do
  let cs ← placed? text
  let l ← Lexer.run (cs.length + 1) .start cs
  return l.tokens.toList

end Yaml
end Partitura
