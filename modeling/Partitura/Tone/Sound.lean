import Partitura.Tone.Pitch
import Partitura.Text
/-!
# Tone.Sound — notes, rests and chords without what is attached to them

A sound has a body, a duration (a number with dots behind it, or nothing), perhaps a tremolo, and perhaps a tie to the
next.
-/
namespace Partitura

/-- What sounds. -/
inductive Body where
  | note (pitch : Pitch)
  | rest
  /-- A chord has at least one pitch. -/
  | chord (first : Pitch) (others : List Pitch)
  deriving DecidableEq

/-- A duration: nothing, or digits with any number of dots behind them. -/
def isDuration : List Char → Bool
  | [] => true
  | c :: cs => Text.isDigit c && (cs.dropWhile Text.isDigit).all (· == '.')

/-- A tremolo divides by a power of two from 8 on. -/
def isTremolo (division : Nat) : Bool := 8 ≤ division && Nat.pow 2 division.log2 == division

/-- The division of a tremolo. -/
structure Tremolo where
  division : Nat
  allowed : isTremolo division = true
  deriving DecidableEq

/-- **A note, a rest or a chord** with its duration. -/
structure Sound where
  body : Body
  duration : String
  timed : isDuration duration.toList = true
  tremolo : Option Tremolo
  tied : Bool
  deriving DecidableEq

namespace Sound

/-- A body that lasts for a duration. -/
def ofBody (body : Body) (duration : String) : Except ScoreError Sound :=
  if h : isDuration duration.toList = true then .ok ⟨body, duration, h, none, false⟩
  else .error (.invalidDuration duration)

def note (pitch : Pitch) (duration : String) : Except ScoreError Sound := ofBody (.note pitch) duration

def rest (duration : String) : Except ScoreError Sound := ofBody .rest duration

/-- A chord; without pitches it is refused before its duration is looked at. -/
def chord (pitches : List Pitch) (duration : String) : Except ScoreError Sound :=
  match pitches with
  | [] => .error (.invalidArgument .emptyChord)
  | first :: others => ofBody (.chord first others) duration

/-- The sound as a tremolo. -/
def withTremolo (s : Sound) (division : Nat) : Except ScoreError Sound :=
  if h : isTremolo division = true then .ok { s with tremolo := some ⟨division, h⟩ }
  else .error (.invalidArgument (.badTremolo division))

def tie (s : Sound) : Sound := { s with tied := true }

/-- The body as the score writes it. -/
def bodyText : Body → String
  | .note pitch => pitch.text
  | .rest => "r"
  | .chord first others => "<" ++ " ".intercalate ((first :: others).map Pitch.text) ++ ">"

/-- **The sound as the score writes it.** -/
def text (s : Sound) : String :=
  bodyText s.body ++ s.duration ++
    (match s.tremolo with
      | some t => ":" ++ t.division.repr
      | none => "") ++
    (if s.tied then "~" else "")

end Sound
end Partitura
