/-!
# Decimal — the text of a floating-point number

A number is its 64 bits: a sign, eleven bits of exponent and fifty-two of fraction.  Arithmetic is not needed here; the
parts of the encoding are, because the digits of a number are chosen from them exactly.
-/
namespace Partitura

/-- **A floating-point number** in the 64-bit binary format. -/
structure Binary64 where
  bits : UInt64
  deriving DecidableEq

namespace Binary64

def isNegative (x : Binary64) : Bool := Nat.pow 2 63 ≤ x.bits.toNat

def exponentField (x : Binary64) : Nat := x.bits.toNat / Nat.pow 2 52 % Nat.pow 2 11

def fraction (x : Binary64) : Nat := x.bits.toNat % Nat.pow 2 52

/-- Infinities and not-a-numbers have the largest exponent. -/
def isFinite (x : Binary64) : Bool := x.exponentField != 2047

/-- Either of the two zeros. -/
def isZero (x : Binary64) : Bool := x.exponentField == 0 && x.fraction == 0

/-- The zero without a sign. -/
def zero : Binary64 := ⟨0⟩

/-- Both zeros as the one without a sign; every other number as it is. -/
def unsignedZero (x : Binary64) : Binary64 := if x.isZero then zero else x

/-- The whole number `m` of the size `m · 2 ^ scale` of a finite number. -/
def significand (x : Binary64) : Nat :=
  if x.exponentField = 0 then x.fraction else x.fraction + Nat.pow 2 52

/-- The power of two in the size `significand · 2 ^ scale`. -/
def scale (x : Binary64) : Int := (max x.exponentField 1 : Nat) - 1075

/-- Does the gap to the next smaller number halve here?  It does at a power of two, the smallest ones apart. -/
def gapHalves (x : Binary64) : Bool := x.fraction == 0 && 1 < x.exponentField

end Binary64

/-! ## The fewest digits that read back

Of all decimals that round to a given number, the shortest is chosen, and of several of that length the nearest; halfway
between two, the larger.  All comparisons are between whole numbers: a number is counted in quarters of the gap to its
neighbours, so that the ends of the interval that rounds to it are whole, too. -/

/-- **A positive decimal** `coefficient · 10 ^ exponent`. -/
structure Decimal where
  coefficient : Nat
  exponent : Int
  deriving DecidableEq

/-- The positive reals that round to one number, in units of `2 ^ unit`: from `low` to `high` with the number itself at
`mid`; the ends belong to it if `closed`. -/
structure RoundingInterval where
  low : Nat
  mid : Nat
  high : Nat
  unit : Int
  closed : Bool

namespace RoundingInterval

/-- The interval of a finite number other than zero, its sign left out. -/
def of (x : Binary64) : RoundingInterval where
  low := 4 * x.significand - (if x.gapHalves then 1 else 2)
  mid := 4 * x.significand
  high := 4 * x.significand + 2
  unit := x.scale - 2
  closed := x.significand % 2 == 0

/-- The factor that turns units into whole parts of the grid of `10 ^ k`. -/
def unitFactor (i : RoundingInterval) (k : Int) : Nat := Nat.pow 2 i.unit.toNat * Nat.pow 10 (-k).toNat

/-- The factor that turns grid points of `10 ^ k` into the same whole parts. -/
def gridFactor (i : RoundingInterval) (k : Int) : Nat := Nat.pow 2 (-i.unit).toNat * Nat.pow 10 k.toNat

/-- Does the decimal `d · 10 ^ k` round to the number? -/
def holds (i : RoundingInterval) (d : Nat) (k : Int) : Bool :=
  let low := i.low * i.unitFactor k
  let high := i.high * i.unitFactor k
  let point := d * i.gridFactor k
  if i.closed then low ≤ point && point ≤ high else low < point && point < high

/-- Is the number at least `10 ^ k`? -/
def reaches (i : RoundingInterval) (k : Int) : Bool :=
  i.gridFactor k ≤ i.mid * i.unitFactor k

/-- The power of ten of the first digit: a guess from the power of two, moved by at most one. -/
def leading (i : RoundingInterval) : Int :=
  let guess := ((i.mid.log2 + i.unit) * 30103) / 100000
  if i.reaches (guess + 1) then guess + 1 else if i.reaches guess then guess else guess - 1

/-- The nearest point of the grid of `10 ^ k` that rounds to the number, if one of the two around it does. -/
def nearest? (i : RoundingInterval) (k : Int) : Option Decimal :=
  let below := i.mid * i.unitFactor k / i.gridFactor k
  let rest := i.mid * i.unitFactor k % i.gridFactor k
  let pick (d : Nat) : Option Decimal := if i.holds d k then some ⟨d, k⟩ else none
  if 2 * rest < i.gridFactor k then pick below <|> pick (below + 1) else pick (below + 1) <|> pick below

end RoundingInterval

/-- **The shortest decimal** of a finite number other than zero, its sign left out.  Seventeen digits always suffice. -/
def Binary64.shortest (x : Binary64) : Decimal :=
  let i := RoundingInterval.of x
  let grids := (List.range 17).map fun (n : Nat) => i.leading - n
  (grids.findSome? i.nearest?).getD ⟨i.mid, i.unit⟩

/-! ## Notation

Zero and sizes from 0.0001 up to, not including, 10 ^ 16 are written positionally with at least one digit after the
point; all others with an exponent, which has no plus sign and whose mantissa has a point only between digits. -/

namespace Decimal

/-- The digits without zeros at the end, and the place of the point counted from their start. -/
def digits (d : Decimal) : List Char × Int :=
  let all := Nat.toDigits 10 d.coefficient
  ((all.reverse.dropWhile (· = '0')).reverse, d.exponent + all.length)

/-- Digits with the point at `place`, at least one digit on either side of it. -/
def positional (ds : List Char) (place : Int) : List Char :=
  if place ≤ 0 then '0' :: '.' :: List.replicate (-place).toNat '0' ++ ds
  else if ds.length ≤ place.toNat then ds ++ List.replicate (place.toNat - ds.length) '0' ++ ['.', '0']
  else ds.take place.toNat ++ '.' :: ds.drop place.toNat

/-- Digits with the point after the first, and a power of ten. -/
def scientific (ds : List Char) (place : Int) : List Char :=
  ds.take 1 ++ (if ds.length ≤ 1 then [] else '.' :: ds.drop 1) ++ 'e' :: (place - 1).repr.toList

/-- The text of a decimal in the notation for its size. -/
def text (d : Decimal) : List Char :=
  let (ds, place) := d.digits
  if -3 ≤ place ∧ place ≤ 16 then positional ds place else scientific ds place

end Decimal

/-- **The text of a number**: its shortest decimal after its sign, or the name of what is no finite number. -/
def Binary64.text (x : Binary64) : String :=
  let sign := if x.isNegative then ['-'] else []
  if x.isZero then String.ofList (sign ++ ['0', '.', '0'])
  else if x.isFinite then String.ofList (sign ++ x.shortest.text)
  else if x.fraction = 0 then String.ofList (sign ++ ['i', 'n', 'f'])
  else "NaN"

end Partitura
