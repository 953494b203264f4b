import Partitura.Render
import Partitura.Leaf.Build
import Partitura.Registry
/-!
# Demo — a short score with one of everything

A few notes with a slur and a hairpin, a layout block and a word of markup.  The score is built from the rules of a
registry and fails like any score whose elements the registry does not know.
-/
namespace Partitura
namespace Demo

/-- The version of the score language that the demonstration is written for. -/
def version : String := "2.24.0"

def note (name duration : String) : Except ScoreError Tone := do
  let pitch ← Pitch.of name "'"
  Tone.ofSound <$> Sound.note pitch duration

def slur : Element := .toggle (.slur 0)

/-- The notes, the slur over the first three and the hairpin over the last two. -/
def melody (g : Registry) : Except ScoreError (List Element) := do
  let forte ← g.node "forte" .none
  let hairpin ← Element.toggle <$> Toggle.crescendo 1 (some forte)
  let piano ← g.node "piano" .none
  let c ← (← (← note "c" "4").attach (.node piano)).attach slur
  let d ← note "d" "4"
  let e ← (← note "e" "4").attach slur
  let f ← (← note "f" "4").attach hairpin
  let g' ← (← note "g" "2").attach hairpin
  let bar ← g.node "bar" (.ofList [.leaf (.string "|.")])
  return [.tone c, .tone d, .tone e, .tone f, .tone g', .node bar]

def score (g : Registry) : Except ScoreError Node := do
  let notes ← melody g
  let relative ← g.node "relative" (.ofList [.element (.tone (← note "c" "")), .sequence notes])
  let layout ← g.node "layout" (.ofList [.sequence []])
  g.node "score" (.ofList [.sequence [.node relative, .node layout]])

def markup (g : Registry) : Except ScoreError Node := do
  let color ← Leaf.ofColor "darkred"
  let dolce ← g.node "with_color" (.ofList [.leaf color, .sequence [.text "dolce"]])
  g.node "markup" (.ofList [.sequence [.node dolce]])

/-- **The demonstration** with the rules of a registry. -/
def document (g : Registry) : Except ScoreError Document := do
  let score ← score g
  let markup ← markup g
  return ⟨version, [.comment "Generated by lilyflower", .node score, .node markup]⟩

end Demo
end Partitura
