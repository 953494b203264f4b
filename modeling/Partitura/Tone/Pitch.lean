import Partitura.Error
/-!
# Tone.Pitch — note names and octave marks

A note name is a letter from `a` to `g`, followed either by one of the two accidental signs or by an optional `s` and
any number of the syllables es, is, eh and ih.  Octave marks are an optional `=` and any mix of quotes and commas.
-/
namespace Partitura

namespace Pitch

/-- Accidentals in syllables, one after the other. -/
def isSyllables : List Char → Bool
  | [] => true
  | [_] => false
  | v :: h :: cs => (v == 'e' || v == 'i') && (h == 's' || h == 'h') && isSyllables cs

/-- What may follow the letter of a note name. -/
def isAccidental (cs : List Char) : Bool :=
  match cs with
  | ['!'] | ['?'] => true
  | 's' :: rest => isSyllables rest
  | _ => isSyllables cs

def isName : List Char → Bool
  | [] => false
  | c :: cs => 'a' ≤ c && c ≤ 'g' && isAccidental cs

def isMarks (cs : List Char) : Bool := cs.all fun c => c == '\'' || c == ','

def isOctave : List Char → Bool
  | '=' :: cs => isMarks cs
  | cs => isMarks cs

end Pitch

/-- **A pitch**: a note name and its octave. -/
structure Pitch where
  name : String
  octave : String
  named : Pitch.isName name.toList = true
  placed : Pitch.isOctave octave.toList = true
  deriving DecidableEq

namespace Pitch

/-- The pitch with this name and octave; the name is looked at first. -/
def of (name octave : String) : Except ScoreError Pitch :=
  if hn : isName name.toList = true then
    if ho : isOctave octave.toList = true then .ok ⟨name, octave, hn, ho⟩
    else .error (.invalidOctave octave)
  else .error (.invalidPitch name)

/-- The pitch as the score writes it. -/
def text (p : Pitch) : String := p.name ++ p.octave

end Pitch
end Partitura
