import Partitura.Command.Options
import Partitura.Demo
import Partitura.Files
import Partitura.Listing
import Partitura.Rule.HelpPage
/-!
# Command — what the commands answer

Every command builds its registry first.  Its answer is a text to print, or a file to write and what to say then.  How
trees are written and read as YAML, and written as JSON, is a parameter.
-/
namespace Partitura
namespace Command

/-- **Why a command fails.** -/
inductive CommandError where
  /-- The registry cannot be built, or a catalog is refused. -/
  | catalog (error : CatalogError)
  /-- A catalog that is to be checked cannot be loaded. -/
  | input (path : String) (error : CatalogError)
  /-- A label is no category. -/
  | category (error : RuleError)
  /-- A score cannot be built, or an element is not known. -/
  | score (error : ScoreError)
  /-- A directory cannot be made. -/
  | directory (path : String) (error : FileError)
  /-- A file cannot be written. -/
  | output (path : String) (error : FileError)
  deriving DecidableEq

def CommandError.message : CommandError → String
  | catalog e => e.message
  | input path e => "Failed to load '" ++ path ++ "': " ++ e.message
  | category e => e.message
  | score e => e.message
  | directory path e => "Failed to create output directory '" ++ path ++ "': " ++ e.message
  | output path e => "Failed to write '" ++ path ++ "': " ++ e.message

/-- **What a command answers.** -/
inductive Answer where
  | print (text : String)
  /-- Write a file, and then print. -/
  | save (path text after : String)
  deriving DecidableEq

/-- **The notations of trees**: catalogs are read as YAML, answers are written as YAML or as JSON. -/
structure Encodings where
  yaml : Data.Encoding
  json : Data → String

/-- A tree in the notation of a format; the table is for people, so what has none is written as YAML. -/
def Encodings.write (x : Encodings) : Format → Data → String
  | .json => x.json
  | .table | .yaml => x.yaml.write

def failing {ε α : Type} (wrap : ε → CommandError) : Except ε α → Except CommandError α
  | .ok a => .ok a
  | .error e => .error (wrap e)

/-- The rules that carry a category, or all of them. -/
def selected (rules : List Rule) : Option Category → List Rule
  | none => rules
  | some c => rules.filter (·.categories.contains c)

/-- **Lists rules.** -/
def list (x : Encodings) (g : Registry) (format : Format) (label : Option String) : Except CommandError Answer := do
  let category ← failing .category (label.mapM Category.ofLabel)
  let rules := selected g.rules category
  match format with
  | .table => return .print (Listing.table rules)
  | format => return .print (x.write format (.list (rules.map fun r => (Definition.ofRule r).toData)) ++ "\n")

/-- **Describes an element.** -/
def describe (x : Encodings) (g : Registry) (format : Format) (name : String) : Except CommandError Answer := do
  let r ← failing .score (g.lookup name)
  match format with
  | .table => return .print r.helpPage
  | format => return .print (x.write format (Definition.ofRule r).toData ++ "\n")

/-- **What checking catalogs finds.** -/
structure Report where
  /-- The number of files. -/
  files : Nat
  /-- The number of definitions in them. -/
  elements : Nat
  /-- The number of rules then. -/
  total : Nat
  deriving DecidableEq

/-- A report as a record. -/
def Report.toData (r : Report) : Data :=
  .record [("files", .count r.files), ("elements", .count r.elements), ("total", .count r.total)]

/-- A report as a sentence. -/
def Report.sentence (r : Report) : String :=
  "Checked " ++ r.files.repr ++ " catalog file(s) defining " ++ r.elements.repr ++ " element(s); " ++ r.total.repr ++
    " element(s) registered in total."

/-- Loads catalog files and registers them one after the other; the number counts their definitions. -/
def checkEach (y : Data.Encoding) (read : ReadFile) :
    Registry → Nat → List String → Except CommandError (Registry × Nat)
  | g, elements, [] => .ok (g, elements)
  | g, elements, path :: paths => do
    let c ← failing (.input path) (Catalog.load y (read path))
    let g ← failing .catalog (c.register path g)
    checkEach y read g (elements + c.elements.length) paths

def report (y : Data.Encoding) (read : ReadFile) (g : Registry) (paths : List String) :
    Except CommandError Report := do
  let (g, elements) ← checkEach y read g 0 paths
  return ⟨paths.length, elements, g.size⟩

/-- **Checks catalog files.** -/
def check (x : Encodings) (read : ReadFile) (g : Registry) (format : Format) (paths : List String) :
    Except CommandError Answer := do
  let r ← report x.yaml read g paths
  match format with
  | .table => return .print (r.sentence ++ "\n")
  | format => return .print (x.write format r.toData ++ "\n")

/-- **Writes the registry as one catalog.** -/
def exported (x : Encodings) (g : Registry) (format : Format) (output : Option String) : Answer :=
  let c := Catalog.ofRegistry g
  let text := x.write format c.toData
  match output with
  | none => .print text
  | some path =>
    .save path text ("Exported " ++ c.elements.length.repr ++ " element(s) to '" ++ path ++ "'.\n")

/-- **Renders the demonstration.** -/
def demo (g : Registry) : Except CommandError Answer := do
  let d ← failing .score (Demo.document g)
  return .print (d.render .start).1

/-- **What a command line is answered**, files read in the given way. -/
def Options.answer (x : Encodings) (o : Options) (read : ReadFile) : Except CommandError Answer := do
  let g ← failing .catalog (o.sources.build x.yaml read)
  match o.request with
  | .list category => list x g o.format category
  | .describe name => describe x g o.format name
  | .check files => check x read g o.format files
  | .exportTo output => return exported x g o.format output
  | .demo => demo g

def Options.inputs (o : Options) : List String :=
  o.sources.files ++ match o.request with
    | .check files => files
    | _ => []

/-- Carries out an answer on a tree of files: the text that is printed, and the tree then. -/
def Answer.carryOut (files : Files) : Answer → Except CommandError (String × Files)
  | .print text => .ok (text, files)
  | .save path text after => do
    let files ← match Path.parent? path with
      | some parent => failing (.directory parent) (files.makeDirectories parent)
      | none => pure files
    let files ← failing (.output path) (files.write path text)
    return (after, files)

/-- **What a run of the program leaves**: its number, what it prints, and the files. -/
structure Outcome where
  code : Nat
  output : String
  complaint : String
  files : Files

def success : Nat := 0

def failure : Nat := 1

/-- The number of a run whose command line asks for nothing that there is. -/
def misuse : Nat := 2

def complaint (e : CommandError) : String := "error: " ++ e.message ++ "\n"

/-- **Runs the program** on a tree of files. -/
def run (x : Encodings) (files : Files) (words : List String) : Outcome :=
  match Options.ofWords? words with
  | none => ⟨misuse, "", "", files⟩
  | some o =>
    match o.answer x files.read >>= Answer.carryOut files with
    | .ok (output, files) => ⟨success, output, "", files⟩
    | .error e => ⟨failure, "", complaint e, files⟩

end Command
end Partitura
