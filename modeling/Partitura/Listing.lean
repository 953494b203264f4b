import Partitura.Rule
import Partitura.Text
/-!
# Listing — rules as a table

One line for each rule: its name, its tag, whether it has children, its categories.  The first three columns are filled
up with spaces, so that the fourth begins below itself.
-/
namespace Partitura
namespace Listing

/-- The word for elements with children, and for those without. -/
def shape (r : Rule) : String := if r.isContainer then "container" else "command"

def shapeWidth : Nat := 9

def gutter : String := "  "

/-- One line of a table whose first two columns have these widths. -/
def line (nameWidth tagWidth : Nat) (name tag shape categories : String) : String :=
  Text.padRight nameWidth name ++ gutter ++ Text.padRight tagWidth tag ++ gutter ++
    Text.padRight shapeWidth shape ++ gutter ++ categories ++ "\n"

/-- **The table of some rules**, a line of headings first. -/
def table (rules : List Rule) : String :=
  let nameWidth := Text.widest 4 (rules.map (·.name))
  let tagWidth := Text.widest 3 (rules.map (·.tag))
  let row (r : Rule) := line nameWidth tagWidth r.name r.tag (shape r) r.categories.text
  String.join (line nameWidth tagWidth "NAME" "TAG" "KIND" "CATEGORIES" :: rules.map row)

end Listing
end Partitura
