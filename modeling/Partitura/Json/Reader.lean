import Partitura.Data
/-!
# Json.Reader — JSON texts

One value with nothing but blanks around it.  Strings hold no raw controls; a string with half a surrogate pair is no
text, and is refused only where a text is asked for.  A list may stand for a record.  Every step consumes characters, so
the number of characters bounds the number of steps.
-/
namespace Partitura
namespace Json

def isBlank (c : Char) : Bool := c == ' ' || c == '\t' || c == '\n' || c == '\r'

def skipBlanks (cs : List Char) : List Char := cs.dropWhile isBlank

def hexDigit? (c : Char) : Option Nat :=
  if '0' ≤ c && c ≤ '9' then some (c.toNat - '0'.toNat)
  else if 'a' ≤ c && c ≤ 'f' then some (c.toNat - 'a'.toNat + 10)
  else if 'A' ≤ c && c ≤ 'F' then some (c.toNat - 'A'.toNat + 10)
  else none

def codeUnit? (a b c d : Char) : Option Nat := do
  return ((← hexDigit? a) * 16 + (← hexDigit? b)) * 256 + ((← hexDigit? c) * 16 + (← hexDigit? d))

/-- One part of a string: a character, or one of the numbered units that are written in pairs. -/
inductive Unit16 where
  | char (c : Char)
  | numbered (unit : Nat)

/-- The parts of a string up to its closing quote. -/
def unitsOf : List Char → Option (List Unit16 × List Char)
  | '"' :: rest => some ([], rest)
  | '\\' :: 'u' :: a :: b :: c :: d :: rest => do
    let unit ← codeUnit? a b c d
    let (units, rest) ← unitsOf rest
    return (.numbered unit :: units, rest)
  | '\\' :: c :: rest => do
    let c ← [('"', '"'), ('\\', '\\'), ('/', '/'), ('b', '\x08'), ('f', '\x0c'), ('n', '\n'), ('r', '\r'),
      ('t', '\t')].lookup c
    let (units, rest) ← unitsOf rest
    return (.char c :: units, rest)
  | c :: rest =>
    if c == '\\' || c.toNat < 0x20 then none
    else do
      let (units, rest) ← unitsOf rest
      return (.char c :: units, rest)
  | [] => none

/-- The characters that the parts of a string stand for; a unit without the other of its pair stands for none. -/
def charsOf : List Unit16 → Option (List Char)
  | [] => some []
  | .char c :: units => (c :: ·) <$> charsOf units
  | .numbered high :: .numbered low :: units =>
    if 0xD800 ≤ high && high < 0xDC00 then
      if 0xDC00 ≤ low && low < 0xE000 then
        (Char.ofNat (0x10000 + (high - 0xD800) * 0x400 + (low - 0xDC00)) :: ·) <$> charsOf units
      else none
    else if 0xDC00 ≤ high && high < 0xE000 then none
    else (Char.ofNat high :: ·) <$> charsOf (.numbered low :: units)
  | .numbered unit :: units =>
    if 0xD800 ≤ unit && unit < 0xE000 then none else (Char.ofNat unit :: ·) <$> charsOf units

/-- A string behind its opening quote: its text, if it is one. -/
def string? (cs : List Char) : Option (Option String × List Char) := do
  let (units, rest) ← unitsOf cs
  return (String.ofList <$> charsOf units, rest)

/-- A run of digits, at least one. -/
def digits? (cs : List Char) : Option (List Char) :=
  match cs.span Char.isDigit with
  | ([], _) => none
  | (_, rest) => some rest

/-- The whole part of a number, which has no zeros before it. -/
def wholePart? : List Char → Option (List Char)
  | '0' :: rest => some rest
  | cs => digits? cs

/-- The part of a number behind a point, if there is a point. -/
def pointPart? : List Char → Option (List Char)
  | '.' :: rest => digits? rest
  | cs => some cs

/-- The exponent of a number, if it has one. -/
def exponentPart? : List Char → Option (List Char)
  | 'e' :: rest | 'E' :: rest =>
    match rest with
    | '+' :: rest | '-' :: rest => digits? rest
    | rest => digits? rest
  | cs => some cs

def number? (cs : List Char) : Option (List Char) := do
  let cs := match cs with
    | '-' :: rest => rest
    | cs => cs
  exponentPart? (← pointPart? (← wholePart? cs))

/-- The scalar that says that there is no value. -/
def nothing : Scalar := { Scalar.unreadable with isNothing := true }

/-- A string as a scalar. -/
def scalarOf : Option String → Scalar
  | some text => .ofText text
  | none => .unreadable

mutual
def value? : Nat → List Char → Option (Reading × List Char)
  | 0, _ => none
  | fuel + 1, cs =>
    match skipBlanks cs with
    | '"' :: rest => do
      let (text, rest) ← string? rest
      return (.scalar (scalarOf text), rest)
    | '[' :: rest =>
      match skipBlanks rest with
      | ']' :: rest => some (.list true true [], rest)
      | rest => do
        let (items, rest) ← items? fuel rest
        return (.list true true items, rest)
    | '{' :: rest =>
      match skipBlanks rest with
      | '}' :: rest => some (.record [], rest)
      | rest => do
        let (entries, rest) ← entries? fuel rest
        return (.record entries, rest)
    | 't' :: 'r' :: 'u' :: 'e' :: rest => some (.scalar { Scalar.unreadable with flag := some true }, rest)
    | 'f' :: 'a' :: 'l' :: 's' :: 'e' :: rest => some (.scalar { Scalar.unreadable with flag := some false }, rest)
    | 'n' :: 'u' :: 'l' :: 'l' :: rest => some (.scalar nothing, rest)
    | cs => do
      let rest ← number? cs
      return (.scalar .unreadable, rest)
/-- The items of a list, at least one, and its closing bracket. -/
def items? : Nat → List Char → Option (List Reading × List Char)
  | 0, _ => none
  | fuel + 1, cs => do
    let (item, rest) ← value? fuel cs
    match skipBlanks rest with
    | ']' :: rest => return ([item], rest)
    | ',' :: rest =>
      let (items, rest) ← items? fuel rest
      return (item :: items, rest)
    | _ => none
/-- The entries of a record, at least one, and its closing brace. -/
def entries? : Nat → List Char → Option (List (Option String × Reading) × List Char)
  | 0, _ => none
  | fuel + 1, cs =>
    match skipBlanks cs with
    | '"' :: rest => do
      let (key, rest) ← string? rest
      match skipBlanks rest with
      | ':' :: rest =>
        let (value, rest) ← value? fuel rest
        match skipBlanks rest with
        | '}' :: rest => return ([(key, value)], rest)
        | ',' :: rest =>
          let (entries, rest) ← entries? fuel rest
          return ((key, value) :: entries, rest)
        | _ => none
      | _ => none
    | _ => none
end

/-- **The tree of a JSON text.** -/
def read? (text : String) : Option Reading := do
  let cs := text.toList
  let (value, rest) ← value? (2 * cs.length + 1) cs
  if (skipBlanks rest).isEmpty then some value else none

end Json
end Partitura
