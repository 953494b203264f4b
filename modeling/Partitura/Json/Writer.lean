import Partitura.Data
/-!
# Json.Writer — trees of data as JSON

Lists and records have one item to a line, two spaces deeper than the line they begin on; empty ones stay on their line.
Only quotes, backslashes and controls below the space are escaped.
-/
namespace Partitura
namespace Json

def fourDigits (n : Nat) : List Char :=
  let ds := Nat.toDigits 16 n
  List.replicate (4 - ds.length) '0' ++ ds

def writtenChar (c : Char) : List Char :=
  if c = '"' then ['\\', '"']
  else if c = '\\' then ['\\', '\\']
  else if c = '\n' then ['\\', 'n']
  else if c = '\r' then ['\\', 'r']
  else if c = '\t' then ['\\', 't']
  else if c.toNat = 0x08 then ['\\', 'b']
  else if c.toNat = 0x0C then ['\\', 'f']
  else if c.toNat < 0x20 then ['\\', 'u'] ++ fourDigits c.toNat
  else [c]

def writtenText (text : String) : String :=
  String.ofList ('"' :: text.toList.flatMap writtenChar ++ ['"'])

def newline (depth : Nat) : String := "\n" ++ String.ofList (List.replicate (2 * depth) ' ')

def bracketed (opening closing : String) (depth : Nat) : List String → String
  | [] => opening ++ closing
  | items =>
    opening ++ newline (depth + 1) ++ ("," ++ newline (depth + 1)).intercalate items ++ newline depth ++ closing

mutual
def writeAt : Data → Nat → String
  | .text text, _ => writtenText text
  | .flag value, _ => toString value
  | .count value, _ => value.repr
  | .list items, depth => bracketed "[" "]" depth (writeItems items (depth + 1))
  | .record fields, depth => bracketed "\x7b" "\x7d" depth (writeFields fields (depth + 1))
def writeItems : List Data → Nat → List String
  | [], _ => []
  | item :: items, depth => writeAt item depth :: writeItems items depth
def writeFields : List (String × Data) → Nat → List String
  | [], _ => []
  | (key, value) :: fields, depth => (writtenText key ++ ": " ++ writeAt value depth) :: writeFields fields depth
end

/-- **The JSON text of a tree.** -/
def write (d : Data) : String := writeAt d 0

end Json
end Partitura
