import Partitura.Rule.Check
/-!
# Error — why an element cannot be built or changed

Every error is a cause with the texts its message needs.  An argument can be at fault in many ways, which share one
heading in messages; `ArgumentFault` keeps them apart.
-/
namespace Partitura

/-- **What is wrong with an argument.** -/
inductive ArgumentFault where
  /-- A number below zero where none may be. -/
  | negative (number : String)
  /-- An infinity or no number at all. -/
  | notFinite (number : String)
  | notSymbol (name : String)
  | notDirection (token : String)
  | notAxis (token : String)
  | notColor (name : String)
  | notPosition (token : String)
  /-- A pair of some other number of members than two. -/
  | pairLength (count : Nat)
  /-- A member of an association list that is no pair. -/
  | memberNotPair (literal : String)
  | emptyProcedure
  | unbalancedProcedure (text : String)
  /-- The element has no slot of that name. -/
  | noSuchSlot (element slot : String)
  /-- The slot was named before. -/
  | repeatedSlot (element slot : String)
  /-- Content that is no sequence. -/
  | contentNotSequence (element value : String)
  /-- A value that the kind of its parameter refuses. -/
  | wrongKind (parameter element : String) (kind : ParameterKind) (value : String)
  /-- A value that names no position. -/
  | badPosition (element value : String)
  /-- A position for an element that is no attachment. -/
  | positionNotTaken (element : String)
  | emptyChord
  | badTremolo (division : Nat)
  /-- An element that is no attachment, put after a tone. -/
  | notAttachable (value : String)
  /-- A hairpin end that is no inline attachment. -/
  | badHairpinEnd (element : String)
  deriving DecidableEq

/-- The message of a fault, without its heading. -/
def ArgumentFault.message : ArgumentFault → String
  | negative number => number ++ " is smaller than zero"
  | notFinite number => number ++ " is not a finite number"
  | notSymbol name => Text.shown name ++ " is not a valid symbol"
  | notDirection token => "expected up, down or center, not " ++ Text.shown token
  | notAxis token => "expected X or Y, not " ++ Text.shown token
  | notColor name => Text.shown name ++ " is not a known color"
  | notPosition token => "expected none, up, down or neutral, not " ++ Text.shown token
  | pairLength count => "a pair needs exactly 2 values, got " ++ count.repr
  | memberNotPair literal => "association list member " ++ literal ++ " is not a pair"
  | emptyProcedure => "empty procedure expression"
  | unbalancedProcedure text => "unbalanced parentheses in " ++ Text.shown text
  | noSuchSlot element slot => "`" ++ element ++ "` has no parameter `" ++ slot ++ "`"
  | repeatedSlot element slot => "`" ++ element ++ "` got argument `" ++ slot ++ "` more than once"
  | contentNotSequence element value => "content of `" ++ element ++ "` must be a sequence, got " ++ value
  | wrongKind parameter element kind value =>
    "`" ++ parameter ++ "` of `" ++ element ++ "` expects " ++ kind.text ++ ", got " ++ value
  | badPosition element value =>
    "position of `" ++ element ++ "` must be none, up, down or neutral, got " ++ value
  | positionNotTaken element => "`" ++ element ++ "` is not an attachment and takes no position"
  | emptyChord => "a chord needs at least one pitch"
  | badTremolo division => "tremolo division must be a power of two of at least 8, got " ++ division.repr
  | notAttachable value => value ++ " cannot be attached to a tone"
  | badHairpinEnd element => "a hairpin must end with an inline attachment, not `" ++ element ++ "`"

/-- **Why an element cannot be built or changed.** -/
inductive ScoreError where
  /-- No rule has that name. -/
  | unknownElement (name : String)
  /-- A required parameter has no value. -/
  | missingArgument (element parameter : String)
  /-- A positional value found no slot. -/
  | tooManyArguments (element value : String)
  /-- A value is of the wrong kind or names nothing. -/
  | invalidArgument (fault : ArgumentFault)
  /-- A child has none of the accepted categories. -/
  | invalidContent (element : String) (allowed actual : CategorySet)
  /-- A list operation on an element that has no children. -/
  | notAContainer (element : String)
  /-- No child stands at that place. -/
  | indexOutOfRange (element : String) (index count : Nat)
  /-- The element searched for is no child. -/
  | childNotFound (element : String)
  | invalidPitch (name : String)
  | invalidOctave (octave : String)
  | invalidDuration (duration : String)
  deriving DecidableEq

def ScoreError.message : ScoreError → String
  | unknownElement name => "unknown element: " ++ name
  | missingArgument element parameter => "`" ++ element ++ "` is missing required argument `" ++ parameter ++ "`"
  | tooManyArguments element value => "too many arguments for `" ++ element ++ "`: nowhere to place " ++ value
  | invalidArgument fault => "invalid argument: " ++ fault.message
  | invalidContent element allowed actual =>
    "invalid content for `" ++ element ++ "`: expected " ++ allowed.text ++ ", got " ++ actual.text
  | notAContainer element => "`" ++ element ++ "` is not a container"
  | indexOutOfRange element index count =>
    "index " ++ index.repr ++ " out of range for `" ++ element ++ "` with " ++ count.repr ++ " children"
  | childNotFound element => "child not found in `" ++ element ++ "`"
  | invalidPitch name => "invalid pitch: " ++ Text.shown name
  | invalidOctave octave => "invalid octave: " ++ Text.shown octave
  | invalidDuration duration => "invalid duration: " ++ Text.shown duration

end Partitura
