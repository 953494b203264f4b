import Partitura.Text
/-!
# Yaml.Word — what a plain scalar says

A scalar without quotes may be the word for nothing, a truth value, a whole number or a floating-point number; if it is
none of these, it is a text.  Digits behind a needless zero are a text, and so is a number beyond the range of its type.
-/
namespace Partitura
namespace Yaml

/-- **What a plain scalar says.** -/
inductive Word where
  | nothing
  | flag (value : Bool)
  | number
  | text
  deriving DecidableEq

/-- Characters without the sign before them that is given. -/
def withoutSign (sign : Char) : List Char → List Char
  | c :: cs => if c = sign then cs else c :: cs
  | [] => []

namespace Word

/-- The word for nothing. -/
def isNothing (text : String) : Bool := ["", "~", "null", "Null", "NULL"].contains text

def flag? (text : String) : Option Bool :=
  if ["true", "True", "TRUE"].contains text then some true
  else if ["false", "False", "FALSE"].contains text then some false
  else none

def isPaddedDigits (cs : List Char) : Bool :=
  let digits := match cs with
    | '+' :: rest | '-' :: rest => rest
    | cs => cs
  match digits with
  | '0' :: d :: ds => (d :: ds).all Text.isDigit
  | _ => false

/-- The value of a digit in a base up to sixteen. -/
def digitValue? (base : Nat) (c : Char) : Option Nat :=
  let value :=
    if Text.isDigit c then c.toNat - '0'.toNat
    else if 'a' ≤ c && c ≤ 'f' then c.toNat - 'a'.toNat + 10
    else if 'A' ≤ c && c ≤ 'F' then c.toNat - 'A'.toNat + 10
    else base
  if value < base then some value else none

/-- The value of digits, of which there is at least one. -/
def natural? (base : Nat) : List Char → Option Nat
  | [] => none
  | cs => cs.foldlM (fun value c => (value * base + ·) <$> digitValue? base c) 0

/-- Whole numbers are written in base ten or, behind a mark, in base sixteen, eight or two. -/
def wholeNumber? : List Char → Option Nat
  | '0' :: 'x' :: digits => natural? 16 digits
  | '0' :: 'o' :: digits => natural? 8 digits
  | '0' :: 'b' :: digits => natural? 2 digits
  | digits => natural? 10 digits

/-- A whole number from `-2 ^ 127` up to, not including, `2 ^ 128`. -/
def isInteger (cs : List Char) : Bool :=
  match cs with
  | '-' :: digits => (wholeNumber? digits).any (· ≤ Nat.pow 2 127)
  | cs => (wholeNumber? (withoutSign '+' cs)).any (· < Nat.pow 2 128)

def infinity : Nat := Nat.pow 2 1024 - Nat.pow 2 970

/-- Does a decimal stay below infinity?  Its size is told from the number of its digits unless that is close. -/
def isFinite (coefficient : Nat) (exponent : Int) : Bool :=
  let magnitude := (Nat.toDigits 10 coefficient).length + exponent
  if coefficient = 0 ∨ magnitude ≤ 300 then true
  else if 320 ≤ magnitude then false
  else coefficient * Nat.pow 10 exponent.toNat < infinity * Nat.pow 10 (-exponent).toNat

/-- The value of an exponent, which is zero if there is none. -/
def exponent? : List Char → Option Int
  | [] => some 0
  | e :: cs =>
    if e = 'e' ∨ e = 'E' then
      match cs with
      | '-' :: digits => (fun (n : Nat) => -(n : Int)) <$> natural? 10 digits
      | cs => (fun (n : Nat) => (n : Int)) <$> natural? 10 (withoutSign '+' cs)
    else none

/-- A finite decimal: digits with or without a point among, before or behind them, and perhaps an exponent. -/
def isDecimal (cs : List Char) : Bool :=
  let (whole, rest) := cs.span Text.isDigit
  let (part, rest) := match rest with
    | '.' :: rest => rest.span Text.isDigit
    | rest => ([], rest)
  match natural? 10 (whole ++ part), exponent? rest with
  | some coefficient, some exponent => isFinite coefficient (exponent - part.length)
  | _, _ => false

/-- The words for infinity, with a sign or without, and for what is no number. -/
def unboundedWords : List String :=
  [".inf", ".Inf", ".INF", "+.inf", "+.Inf", "+.INF", "-.inf", "-.Inf", "-.INF", ".nan", ".NaN", ".NAN"]

/-- A floating-point number, or the word for infinity or for not a number. -/
def isFloat (text : String) : Bool :=
  unboundedWords.contains text ||
    match text.toList with
    | '-' :: rest | '+' :: rest | rest => isDecimal rest

/-- **What a plain scalar says.** -/
def of (text : String) : Word :=
  if isNothing text then nothing
  else match flag? text with
    | some value => flag value
    | none =>
      if isPaddedDigits text.toList then Word.text
      else if isInteger text.toList || isFloat text then number
      else Word.text

end Word
end Yaml
end Partitura
