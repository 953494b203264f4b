import Partitura.Yaml.Node
/-!
# Yaml.Document — from tokens to the tree

A text holds one document, which may have directives before it and marks around it.  A node may have an anchor and a
tag, in either order; where a key, a value or an item is left out, an empty plain scalar stands.  Every step takes a
token or goes down one level, so the number of tokens bounds the number of steps.
-/
namespace Partitura
namespace Yaml

/-- **How far a document has been read.** -/
structure Progress where
  tokens : List Token
  anchors : Anchors
  /-- What the handles of tags stand for. -/
  handles : List (String × String)

/-- A step that reads something of a document, if it is there. -/
abbrev Reader (α : Type) := StateT Progress Option α

namespace Reader

def peek : Reader (Option Token) := fun s => some (s.tokens.head?, s)

def advance : Reader Unit := fun s => some ((), { s with tokens := s.tokens.drop 1 })

/-- Something that is not as it should be. -/
def fail {α : Type} : Reader α := fun _ => none

/-- Passes over a token if it is the one given. -/
def takeIf (t : Token) : Reader Bool := do
  if (← peek) == some t then
    advance
    return true
  else return false

/-- Passes over a token that has to be there. -/
def expect (t : Token) : Reader Unit := do
  if !(← takeIf t) then fail

def nextIn (ts : List Token) : Reader Bool := do
  return (← peek).any ts.contains

/-- The number of an anchor that has to be known. -/
def referenced (name : String) : Reader Nat := fun s => (s.anchors.number? name).map (·, s)

def beginAnchor (name : String) : Reader (Nat × Nat) := fun s =>
  let (start, anchors) := s.anchors.begin name
  some (start, { s with anchors })

def finishAnchor (start : Nat × Nat) (node : Node) : Reader Unit := fun s =>
  some ((), { s with anchors := s.anchors.finish start node })

/-- The tag that a handle and a suffix stand for. -/
def resolveTag (handle suffix : String) : Reader String := fun s =>
  if handle.isEmpty then some (suffix, s)
  else (s.handles.lookup handle).map fun expansion => (expansion ++ suffix, s)

/-- The anchor before a node, if there is one. -/
def anchor? : Reader (Option String) := do
  match ← peek with
  | some (.anchor name) =>
    advance
    return some name
  | _ => return none

/-- The tag before a node, if there is one. -/
def tag? : Reader (Option String) := do
  match ← peek with
  | some (.tag handle suffix) =>
    advance
    some <$> resolveTag handle suffix
  | _ => return none

/-- The anchor and the tag before a node. -/
def properties : Reader (Option String × Option String) := do
  match ← anchor? with
  | some name => return (some name, ← tag?)
  | none =>
    let tag ← tag?
    return (← anchor?, tag)

/-- Where a node may stand. -/
inductive Place where
  /-- Inside brackets, where only brackets open collections. -/
  | flow
  /-- Outside brackets. -/
  | block
  /-- Behind a key, where a sequence may stand as deep as the key. -/
  | behindKey
  deriving DecidableEq

/-- The tag of a scalar; the single mark is none. -/
def scalarTag (tag : Option String) : Option String := if tag == some "!" then none else tag

/-- An empty scalar, which has to have an anchor or a tag. -/
def nothingWritten (tag : Option String) (hasProperties : Bool) : Reader Node :=
  if hasProperties then return .scalar "" .plain tag else fail

mutual
/-- **A node.** -/
def node : Nat → Place → Reader Node
  | 0, _ => fail
  | fuel + 1, place => do
    match ← peek with
    | some (.alias name) =>
      advance
      return .reference (← referenced name)
    | _ =>
      let (anchor, tag) ← properties
      let start ← anchor.mapM beginAnchor
      let result ← content fuel place tag (anchor.isSome || tag.isSome)
      match start with
      | some start => finishAnchor start result
      | none => pure ()
      return result
/-- A node behind its anchor and its tag, of which one may be there. -/
def content : Nat → Place → Option String → Bool → Reader Node
  | 0, _, _, _ => fail
  | fuel + 1, place, tag, hasProperties => do
    let absent := nothingWritten tag hasProperties
    match ← peek with
    | some (.scalar text style) =>
      advance
      return .scalar text style (scalarTag tag)
    | some .flowSequenceStart =>
      advance
      return .sequence tag (← flowItems fuel true)
    | some .flowMappingStart =>
      advance
      return .mapping (← flowEntries fuel true)
    | some .blockSequenceStart =>
      if place = .flow then absent
      else
        advance
        return .sequence tag (← blockItems fuel)
    | some .blockMappingStart =>
      if place = .flow then absent
      else
        advance
        return .mapping (← blockEntries fuel)
    | some .blockEntry =>
      if place = .behindKey then return .sequence tag (← shallowItems fuel) else absent
    | _ => absent
/-- A node, or an empty scalar before one of these tokens. -/
def nodeUnless : Nat → Place → List Token → Reader Node
  | 0, _, _ => fail
  | fuel + 1, place, stops => do
    if ← nextIn stops then return .absent else node fuel place
def blockItems : Nat → Reader (List Node)
  | 0 => fail
  | fuel + 1 => do
    if ← takeIf .blockEntry then
      let item ← nodeUnless fuel .block [.blockEntry, .blockEnd]
      return item :: (← blockItems fuel)
    else
      expect .blockEnd
      return []
/-- The items of a sequence that stands as deep as its key. -/
def shallowItems : Nat → Reader (List Node)
  | 0 => fail
  | fuel + 1 => do
    if ← takeIf .blockEntry then
      let item ← nodeUnless fuel .block [.blockEntry, .key, .value, .blockEnd]
      return item :: (← shallowItems fuel)
    else return []
def blockEntries : Nat → Reader (List (Node × Node))
  | 0 => fail
  | fuel + 1 => do
    if ← takeIf .key then
      let key ← nodeUnless fuel .behindKey [.key, .value, .blockEnd]
      let value ← if ← takeIf .value then nodeUnless fuel .behindKey [.key, .value, .blockEnd] else pure .absent
      return (key, value) :: (← blockEntries fuel)
    else
      expect .blockEnd
      return []
/-- The items of a sequence in brackets, and the closing bracket; all but the first stand behind a comma. -/
def flowItems : Nat → Bool → Reader (List Node)
  | 0, _ => fail
  | fuel + 1, first => do
    if ← takeIf .flowSequenceEnd then return []
    if !first then expect .flowEntry
    if ← takeIf .key then
      let pair ← flowPair fuel
      return .mapping [pair] :: (← flowItems fuel false)
    else if ← takeIf .flowSequenceEnd then return []
    else
      let item ← node fuel .flow
      return item :: (← flowItems fuel false)
/-- A single entry among the items of a sequence.  A key that is left out takes the token in its place with it. -/
def flowPair : Nat → Reader (Node × Node)
  | 0 => fail
  | fuel + 1 => do
    let key ←
      if ← nextIn [.value, .flowEntry, .flowSequenceEnd] then
        advance
        pure .absent
      else node fuel .flow
    let value ← if ← takeIf .value then nodeUnless fuel .flow [.flowEntry, .flowSequenceEnd] else pure .absent
    return (key, value)
/-- The entries of a mapping in braces, and the closing brace; all but the first stand behind a comma. -/
def flowEntries : Nat → Bool → Reader (List (Node × Node))
  | 0, _ => fail
  | fuel + 1, first => do
    if ← takeIf .flowMappingEnd then return []
    if !first then expect .flowEntry
    if ← takeIf .key then
      let key ← nodeUnless fuel .flow [.value, .flowEntry, .flowMappingEnd]
      let value ← if ← takeIf .value then nodeUnless fuel .flow [.flowEntry, .flowMappingEnd] else pure .absent
      return (key, value) :: (← flowEntries fuel false)
    else if ← takeIf .flowMappingEnd then return []
    else
      let key ← node fuel .flow
      return (key, .absent) :: (← flowEntries fuel false)
end

end Reader

/-- The directives before a document: at most one version, which is 1.1 or 1.2, and at most one meaning for a handle. -/
def directives : Bool → List (String × String) → List Token → Option (List (String × String) × List Token)
  | versioned, handles, .version major minor :: rest =>
    if versioned || major != 1 || (minor != 1 && minor != 2) then none else directives true handles rest
  | versioned, handles, .handle name expansion :: rest =>
    if handles.any (·.1 == name) then none else directives versioned ((name, expansion) :: handles) rest
  | _, handles, rest => some (handles, rest)

/-- What handles stand for unless a directive says otherwise. -/
def usualHandles : List (String × String) := [("!", "!"), ("!!", "tag:yaml.org,2002:")]

def beginsExplicitly : List Token → Bool
  | .version _ _ :: _ | .handle _ _ :: _ | .documentStart :: _ => true
  | _ => false

def skipEnds (tokens : List Token) : List Token := tokens.dropWhile (· == .documentEnd)

/-- Reads the root of a document, behind which nothing may be left but marks that end it. -/
def rootOf (handles : List (String × String)) (tokens : List Token) : Option Document := do
  let start : Progress := ⟨tokens, .empty, handles ++ usualHandles⟩
  let (root, progress) ← (Reader.node (2 * tokens.length + 2) .block).run start
  if (skipEnds progress.tokens).isEmpty then some ⟨root, progress.anchors⟩ else none

/-- **The document of some tokens.**  An empty one counts as none. -/
def Document.ofTokens? (tokens : List Token) : Option Document :=
  if beginsExplicitly tokens then
    match directives false [] tokens with
    | some (handles, .documentStart :: tokens) => rootOf handles tokens
    | _ => none
  else rootOf [] tokens

end Yaml
end Partitura
