import Partitura.Data
import Partitura.Yaml.Word
/-!
# Yaml.Writer — trees of data as YAML

Block style throughout: every field and every item has a line of its own, a list stands as deep as the field it belongs
to, and only what is empty is written in brackets.  A text is plain where it can be read back as the same text;
otherwise it is quoted, or a literal block if it has lines.
-/
namespace Partitura
namespace Yaml

def endsLine (c : Char) : Bool :=
  c == '\n' || c == '\r' || c == '\x85' || c == '\u2028' || c == '\u2029'

def isSeparator (c : Char) : Bool := c == ' ' || c == '\t' || endsLine c

/-- Characters that show themselves.  Controls, the byte order mark and the two code points after `FFFD` do not. -/
def isPrintable (c : Char) : Bool :=
  let n := c.toNat
  n == 0x0A || (0x20 ≤ n && n ≤ 0x7E) || (0xA0 ≤ n && n != 0xFEFF && n != 0xFFFE && n != 0xFFFF)

def separatorNext : List Char → Bool
  | [] => true
  | c :: _ => isSeparator c

/-- A plain scalar may not begin with these. -/
def beginsIndicator : List Char → Bool
  | [] => false
  | c :: rest =>
    "#,[]\x7b\x7d&*!|>'\"%@\x60".toList.contains c || ("?:-".toList.contains c && separatorNext rest)

/-- Inside a plain scalar, no colon may stand before a separator and no number sign behind one. -/
def hidesIndicator : List Char → Bool
  | c :: d :: rest =>
    (isSeparator c && d == '#') || (d == ':' && separatorNext rest) || hidesIndicator (d :: rest)
  | _ => false

def beginsDocumentMark (cs : List Char) : Bool :=
  "---".toList.isPrefixOf cs || "...".toList.isPrefixOf cs

def isSpaceOrEnd (c : Char) : Bool := c == ' ' || endsLine c

/-- Does one character of a kind come directly before one of another? -/
def adjacent (first second : Char → Bool) : List Char → Bool
  | c :: d :: rest => (first c && second d) || adjacent first second (d :: rest)
  | _ => false

/-- Text that only escapes can show: hidden characters, or a space at the end of a line. -/
def needsEscapes (cs : List Char) : Bool :=
  cs.any (fun c => !isPrintable c) || adjacent (· == ' ') endsLine cs

/-- May the text stand without quotes?  What it says does not matter here. -/
def allowsPlain (cs : List Char) : Bool :=
  !needsEscapes cs && !cs.any endsLine && !beginsIndicator cs && !hidesIndicator cs && !beginsDocumentMark cs &&
    !cs.head?.any isSpaceOrEnd && !cs.getLast?.any isSpaceOrEnd

def allowsSingleQuotes (cs : List Char) : Bool := !needsEscapes cs && !adjacent endsLine (· == ' ') cs

def allowsBlock (cs : List Char) : Bool := !cs.isEmpty && !needsEscapes cs && cs.getLast? != some ' '

/-- How a text is written. -/
inductive WrittenStyle where
  | plain
  | singleQuoted
  | doubleQuoted
  | block
  deriving DecidableEq

/-- **The style of a text**: a block for lines, single quotes for what would be read as something else, and no quotes
for the rest, as far as the characters allow it. -/
def WrittenStyle.of (text : String) : WrittenStyle :=
  let cs := text.toList
  let quotes := if allowsSingleQuotes cs then singleQuoted else doubleQuoted
  if cs.contains '\n' then (if allowsBlock cs then block else doubleQuoted)
  else if Word.of text != .text || Word.isPaddedDigits cs then quotes
  else if allowsPlain cs then plain
  else quotes

def hexDigits (width n : Nat) : List Char :=
  let ds := (Nat.toDigits 16 n).map Char.toUpper
  List.replicate (width - ds.length) '0' ++ ds

def letterEscapes : List (Char × Char) :=
  [('\x00', '0'), ('\x07', 'a'), ('\x08', 'b'), ('\t', 't'), ('\n', 'n'), ('\x0b', 'v'), ('\x0c', 'f'), ('\r', 'r'),
    ('\x1b', 'e'), ('"', '"'), ('\\', '\\'), ('\x85', 'N'), ('\u2028', 'L'), ('\u2029', 'P')]

def escaped (c : Char) : List Char :=
  match letterEscapes.lookup c with
  | some letter => ['\\', letter]
  | none =>
    if isPrintable c then [c]
    else if c.toNat ≤ 0xFF then '\\' :: 'x' :: hexDigits 2 c.toNat
    else if c.toNat ≤ 0xFFFF then '\\' :: 'u' :: hexDigits 4 c.toNat
    else '\\' :: 'U' :: hexDigits 8 c.toNat

/-- The spaces before a line. -/
def pad (indent : Nat) : List Char := List.replicate indent ' '

/-- The characters between single quotes.  Quotes are doubled, and behind the end of a line, which can only be one of
the two separators beyond ASCII here, the text goes on at its indentation. -/
def singleQuotedBody (indent : Nat) : Bool → List Char → List Char
  | broken, [] => if broken then pad indent else []
  | broken, c :: cs =>
    if endsLine c then c :: singleQuotedBody indent true cs
    else
      let written := if c = '\'' then ['\'', '\''] else [c]
      (if broken then pad indent else []) ++ written ++ singleQuotedBody indent false cs

def blockBody (indent : Nat) : Bool → List Char → List Char
  | _, [] => []
  | broken, c :: cs =>
    if endsLine c then c :: blockBody indent true cs
    else (if broken then pad indent else []) ++ c :: blockBody indent false cs

/-- What a literal block says about the breaks at its end: none, one, or as many as there are. -/
def chomping (cs : List Char) : List Char :=
  match cs.reverse with
  | [] => ['-']
  | last :: before =>
    if !endsLine last then ['-']
    else if before.head?.all endsLine then ['+']
    else []

/-- The head of a literal block: its indentation where the first line does not show it, and its breaks at the end. -/
def blockHead (cs : List Char) : List Char :=
  '|' :: (if cs.head?.any isSpaceOrEnd then ['2'] else []) ++ chomping cs

/-- **A text as a scalar** whose further lines are indented.  The second part says whether it has ended its own line. -/
def writtenText (indent : Nat) (text : String) : List Char × Bool :=
  let cs := text.toList
  match WrittenStyle.of text with
  | .plain => (cs, false)
  | .singleQuoted => (['\''] ++ singleQuotedBody indent false cs ++ ['\''], false)
  | .doubleQuoted => (['"'] ++ cs.flatMap escaped ++ ['"'], false)
  | .block => (blockHead cs ++ ['\n'] ++ blockBody indent true cs, cs.getLast?.any endsLine)

def scalarLine (scalar : List Char × Bool) : List Char := if scalar.2 then scalar.1 else scalar.1 ++ ['\n']

/-- The key of a field.  Keys are written like texts. -/
def key (text : String) : List Char := (writtenText 0 text).1 ++ [':']

mutual
/-- A tree behind a key or a dash: on the same line if it is a scalar or empty, and below it otherwise.  A list stands
as deep as its key, a record one level deeper. -/
def behindKey : Data → Nat → List Char
  | .text text, indent => ' ' :: scalarLine (writtenText (indent + 2) text)
  | .flag value, _ => ' ' :: (toString value).toList ++ ['\n']
  | .count value, _ => ' ' :: value.repr.toList ++ ['\n']
  | .list [], _ => " []\n".toList
  | .list items, indent => '\n' :: blockItems items indent true
  | .record [], _ => " \x7b\x7d\n".toList
  | .record fields, indent => '\n' :: blockFields fields (indent + 2) true
/-- A tree behind the dash of an item: the first line of what has several stands behind the dash. -/
def behindDash : Data → Nat → List Char
  | .text text, indent => scalarLine (writtenText (indent + 2) text)
  | .flag value, _ => (toString value).toList ++ ['\n']
  | .count value, _ => value.repr.toList ++ ['\n']
  | .list [], _ => "[]\n".toList
  | .list items, indent => blockItems items (indent + 2) false
  | .record [], _ => "\x7b\x7d\n".toList
  | .record fields, indent => blockFields fields (indent + 2) false
/-- The items of a list; the first line may have its indentation already. -/
def blockItems : List Data → Nat → Bool → List Char
  | [], _, _ => []
  | item :: items, indent, padded =>
    (if padded then pad indent else []) ++ '-' :: ' ' :: behindDash item indent ++ blockItems items indent true
/-- The fields of a record; the first line may have its indentation already. -/
def blockFields : List (String × Data) → Nat → Bool → List Char
  | [], _, _ => []
  | (name, value) :: fields, indent, padded =>
    (if padded then pad indent else []) ++ key name ++ behindKey value indent ++ blockFields fields indent true
end

/-- **The YAML text of a tree.** -/
def write : Data → String
  | .text text => String.ofList (scalarLine (writtenText 0 text))
  | .flag value => toString value ++ "\n"
  | .count value => value.repr ++ "\n"
  | .list [] => "[]\n"
  | .list items => String.ofList (blockItems items 0 true)
  | .record [] => "\x7b\x7d\n"
  | .record fields => String.ofList (blockFields fields 0 true)

end Yaml
end Partitura
