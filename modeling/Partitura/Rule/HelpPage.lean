import Partitura.Rule
import Partitura.Text.Capital
import Partitura.Text
/-!
# Rule.HelpPage — the help page of an element

The page is generated from the rule alone: a headline, how to call the element, what its slots take, and which errors it
can raise.
-/
namespace Partitura

/-- Words joined by underscores, as one word with capitals: `start` says that a word begins. -/
def titled : Bool → List Char → List Char
  | _, [] => []
  | start, c :: cs =>
    if c = '_' then titled true cs else (if start then Text.capital c else [c]) ++ titled false cs

/-- **The name as a title.** -/
def displayName (name : String) : String := String.ofList (titled true name.toList)

namespace Rule

def shape (r : Rule) : String :=
  (if r.isContainer then "container" else "command") ++ (if r.inline then ", inline" else "")

/-- The slots of a call; those that may stay empty are in brackets. -/
def usage (r : Rule) : List String :=
  r.parameters.map (fun p => if p.optional then "[" ++ p.name ++ "]" else p.name) ++
    (if r.isAttachment then ["[" ++ positionSlot ++ "]"] else []) ++
    (if r.isContainer then ["[" ++ contentSlot ++ "]"] else [])

def slotTexts (r : Rule) : List (String × String) :=
  r.parameters.map (fun p => (p.name, p.kind.text ++ if p.optional then " (optional)" else "")) ++
    (if r.isAttachment then [(positionSlot, "none, up, down or neutral (optional)")] else []) ++
    match r.content with
    | some content => [(contentSlot, "sequence of " ++ content.text)]
    | none => []

def slotLines (r : Rule) : List String :=
  if r.slotTexts.isEmpty then ["Takes no arguments."]
  else
    let width := Text.widest 0 (r.slotTexts.map Prod.fst)
    "Parameters:" :: r.slotTexts.map fun (name, text) => "  " ++ Text.padRight width name ++ "  " ++ text

/-- The errors that building an element or using it as a list can raise, and when. -/
def errorTexts (r : Rule) : List (String × String) :=
  [("TooManyArguments", "more positional values than slots")] ++
    (if r.parameters.any (!·.optional) then [("MissingArgument", "a required parameter is not supplied")] else []) ++
    [("InvalidArgument", "a value does not match its slot")] ++
    (if r.isContainer then [("InvalidContent", "a child carries none of the accepted categories")]
      else [("NotAContainer", "list operations on this command")])

/-- **The help page.** -/
def helpPage (r : Rule) : String :=
  let lines :=
    [displayName r.name ++ " (`" ++ r.tag ++ "`) " ++ r.shape ++ ".", "",
      "Usage: " ++ r.name ++ "(" ++ ", ".intercalate r.usage ++ ")", ""] ++
    r.slotLines ++ ["", "Errors:"] ++
    r.errorTexts.map fun (name, text) => "  " ++ Text.padRight 16 name ++ "  " ++ text
  "\n".intercalate lines ++ "\n"

end Rule
end Partitura
