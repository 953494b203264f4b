import Partitura.Error
/-!
# Position — where an attachment is placed

Above or below the staff, on neither side in particular, or left to the typesetter, which writes no sign at all.
-/
namespace Partitura

/-- **The place of an attachment** relative to the staff. -/
inductive Position where
  /-- Left to the typesetter. -/
  | unset
  | up
  | down
  | neutral
  deriving DecidableEq

namespace Position

/-- The word for a position. -/
def label : Position → String
  | unset => "none"
  | up => "up"
  | down => "down"
  | neutral => "neutral"

/-- The sign before the tag of an attachment. -/
def marker : Position → String
  | unset => ""
  | up => "^"
  | down => "_"
  | neutral => "-"

def ofLabel? (text : String) : Option Position :=
  [unset, up, down, neutral].find? (·.label == text)

def ofToken (token : String) : Except ScoreError Position :=
  match ofLabel? token with
  | some p => .ok p
  | none => .error (.invalidArgument (.notPosition token))

end Position
end Partitura
