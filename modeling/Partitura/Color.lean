import Partitura.Color.Palette
import Partitura.Error
import Partitura.Text
/-!
# Color — color names

A name is a color if it belongs to one of four families: the normal palette, the simple X11 names, the numbered X11
names (a base and a digit from 1 to 4), or the grey ramp (`grey` and up to three digits that stay within 100).  Colors
of the normal palette stand for themselves in a literal; the others are looked up by a call.
-/
namespace Partitura

/-- The family of a color name. -/
inductive ColorFamily where
  | normal
  | x11
  | numbered
  | grey
  deriving DecidableEq

namespace ColorFamily

/-- A base of the numbered X11 names and a digit from 1 to 4. -/
def isNumbered (cs : List Char) : Bool :=
  match cs.getLast? with
  | some d => '1' ≤ d && d ≤ '4' && Palette.numberedBases.contains (String.ofList cs.dropLast)
  | none => false

def level (ds : List Char) : Nat := ds.foldl (fun n d => 10 * n + (d.toNat - '0'.toNat)) 0

/-- The word `grey` and one to three digits of a number up to 100. -/
def isGrey : List Char → Bool
  | 'g' :: 'r' :: 'e' :: 'y' :: ds =>
    !ds.isEmpty && ds.length ≤ 3 && ds.all Text.isDigit && level ds ≤ 100
  | _ => false

/-- **The family of a name**, the families tried in their order. -/
def of? (name : String) : Option ColorFamily :=
  if Palette.normal.contains name then some normal
  else if Palette.x11.contains name then some x11
  else if isNumbered name.toList then some numbered
  else if isGrey name.toList then some grey
  else none

end ColorFamily

/-- **A color**: a name together with the family it belongs to. -/
structure Color where
  name : String
  family : ColorFamily
  known : ColorFamily.of? name = some family
  deriving DecidableEq

namespace Color

def ofName (name : String) : Except ScoreError Color :=
  match h : ColorFamily.of? name with
  | some family => .ok ⟨name, family, h⟩
  | none => .error (.invalidArgument (.notColor name))

/-- The color as a literal. -/
def literal (c : Color) : String :=
  match c.family with
  | .normal => c.name
  | _ => "(x11-color \"" ++ c.name ++ "\")"

end Color
end Partitura
