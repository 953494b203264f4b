import Partitura.Yaml.Scalar.Block
import Partitura.Yaml.Token
/-!
# Yaml.Tag — reading names, tags and directives

Names of anchors are letters, digits, dashes and underscores.  A tag is a handle and a suffix, or stands complete
between angle brackets.  Directives give the version of the language and what handles stand for.
-/
namespace Partitura
namespace Yaml

def isNameChar (c : Char) : Bool :=
  ('0' ≤ c && c ≤ '9') || ('A' ≤ c && c ≤ 'Z') || ('a' ≤ c && c ≤ 'z') || c == '_' || c == '-'

def run (kind : Char → Bool) (cs : List Placed) : List Char × List Placed :=
  ((cs.takeWhile fun p => kind p.char).map (·.char), cs.dropWhile fun p => kind p.char)

/-- May a name be followed by this? -/
def endsName : List Placed → Bool
  | [] => true
  | p :: _ => isGap p.char || "?:,]\x7d%@\x60".toList.contains p.char

def anchorName? (cs : List Placed) : Option (String × List Placed) :=
  let (name, rest) := run isNameChar cs
  if !name.isEmpty && endsName rest then some (String.ofList name, rest) else none

/-- The characters of the suffix of a tag; between brackets there may be more of them. -/
def isTagChar (complete : Bool) (c : Char) : Bool :=
  isNameChar c || ";/?:@&=+$.%!~*'()".toList.contains c || (complete && ",[]".toList.contains c)

/-- The number of bytes of a character, by the first of them. -/
def byteCount? (first : Nat) : Option Nat :=
  if first < 0x80 then some 1
  else if 0xC0 ≤ first && first < 0xE0 then some 2
  else if 0xE0 ≤ first && first < 0xF0 then some 3
  else if 0xF0 ≤ first && first < 0xF8 then some 4
  else none

/-- The value of so many bytes, each behind a percent sign; all but the first begin with the bits one and zero. -/
def escapedBytes? : Nat → Nat → List Char → Option (Nat × List Char)
  | 0, value, cs => some (value, cs)
  | count + 1, value, '%' :: a :: b :: cs => do
    let byte := (← hexDigit? a) * 16 + (← hexDigit? b)
    if 0x80 ≤ byte && byte < 0xC0 then escapedBytes? count (value * 64 + byte % 64) cs else none
  | _, _, _ => none

/-- The characters of a tag with their escapes resolved; each step takes at least one of them. -/
def unescapeTag : Nat → List Char → Option (List Char)
  | 0, _ => none
  | _, [] => some []
  | fuel + 1, '%' :: a :: b :: cs => do
    let first := (← hexDigit? a) * 16 + (← hexDigit? b)
    let count ← byteCount? first
    let lead := if count = 1 then first else first % 2 ^ (7 - count)
    let (value, cs) ← escapedBytes? (count - 1) lead cs
    (Char.ofNat value :: ·) <$> unescapeTag fuel cs
  | _, '%' :: _ => none
  | fuel + 1, c :: cs => (c :: ·) <$> unescapeTag fuel cs

def tagSuffix? (complete : Bool) (cs : List Placed) : Option (List Char × List Placed) := do
  let (suffix, rest) := run (isTagChar complete) cs
  let suffix ← unescapeTag (suffix.length + 1) suffix
  return (suffix, rest)

/-- The handle of a tag: an exclamation mark, perhaps a name and another one behind it. -/
def tagHandle? : List Placed → Option (List Char × List Placed)
  | ⟨'!', _, _, _⟩ :: rest =>
    match run isNameChar rest with
    | (name, ⟨'!', _, _, _⟩ :: rest) => some ('!' :: name ++ ['!'], rest)
    | (name, rest) => some ('!' :: name, rest)
  | _ => none

def isNamedHandle (handle : List Char) : Bool := 2 ≤ handle.length && handle.getLast? == some '!'

/-- A tag that is complete between angle brackets, behind the first of them. -/
def completeTag? (cs : List Placed) : Option (Token × List Placed) := do
  let (suffix, rest) ← tagSuffix? true cs
  match suffix, rest with
  | _ :: _, ⟨'>', _, _, _⟩ :: rest => return (.tag "" (String.ofList suffix), rest)
  | _, _ => none

/-- A tag with a handle, or with none but the single mark. -/
def handledTag? (cs : List Placed) : Option (Token × List Placed) := do
  let (handle, rest) ← tagHandle? cs
  let (suffix, rest) ← tagSuffix? false rest
  if isNamedHandle handle then
    if suffix.isEmpty then none else return (.tag (String.ofList handle) (String.ofList suffix), rest)
  else
    match handle.drop 1 ++ suffix with
    | [] => return (.tag "" "!", rest)
    | suffix => return (.tag "!" (String.ofList suffix), rest)

/-- **A tag** at its mark.  It ends a word, or in a flow collection stands before a comma. -/
def tag? (inFlow : Bool) (cs : List Placed) : Option (Token × List Placed) := do
  let (token, rest) ← match cs with
    | ⟨'!', _, _, _⟩ :: ⟨'<', _, _, _⟩ :: rest => completeTag? rest
    | cs => handledTag? cs
  if endsWord rest || (inFlow && rest.head?.any (·.char == ',')) then some (token, rest) else none

/-- A part of a version, which has one to nine digits. -/
def versionPart? (cs : List Placed) : Option (Nat × List Placed) :=
  let (digits, rest) := run Char.isDigit cs
  if digits.isEmpty || 9 < digits.length then none
  else some (digits.foldl (fun n d => 10 * n + (d.toNat - '0'.toNat)) 0, rest)

/-- Characters without the blanks before them. -/
def dropBlanks (cs : List Placed) : List Placed := cs.dropWhile fun p => isBlank p.char

def versionDirective? (cs : List Placed) : Option (Token × List Placed) := do
  let (major, rest) ← versionPart? (dropBlanks cs)
  match rest with
  | ⟨'.', _, _, _⟩ :: rest =>
    let (minor, rest) ← versionPart? rest
    return (.version major minor, rest)
  | _ => none

/-- The value of a directive that says what a handle stands for. -/
def handleDirective? (cs : List Placed) : Option (Token × List Placed) := do
  let (handle, rest) ← tagHandle? (dropBlanks cs)
  if !isNamedHandle handle && handle.length != 1 then none
  else if !rest.head?.any (isBlank ·.char) then none
  else
    let (expansion, rest) ← tagSuffix? true (dropBlanks rest)
    if expansion.isEmpty || !endsWord rest then none
    else return (.handle (String.ofList handle) (String.ofList expansion), rest)

/-- **A directive** behind its sign, with the rest of its line. -/
def directive? (cs : List Placed) : Option (Token × List Placed) := do
  let (name, rest) := run isNameChar cs
  let (token, rest) ←
    if !endsWord rest then none
    else if name == "YAML".toList then versionDirective? rest
    else if name == "TAG".toList then handleDirective? rest
    else none
  let rest ← endLine? rest
  return (token, rest)

end Yaml
end Partitura
