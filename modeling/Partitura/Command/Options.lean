import Partitura.Catalog.Source
/-!
# Command.Options — what a command line asks for

Options that say what registry to use and how to write may stand before the name of a command or behind it; behind it
they count more.  Options of one command stand behind its name.  Behind two dashes nothing is an option any more.
-/
namespace Partitura
namespace Command

/-- How an answer is written. -/
inductive Format where
  | table
  | json
  | yaml
  deriving DecidableEq

def Format.ofName? (name : String) : Option Format :=
  [("table", table), ("json", json), ("yaml", yaml)].lookup name

/-- **What a command is to do.** -/
inductive Request where
  /-- List the rules, all of them or those with a category. -/
  | list (category : Option String)
  /-- Print the help page of an element. -/
  | describe (name : String)
  /-- Register catalog files besides those of the registry. -/
  | check (files : List String)
  /-- Write the registry as one catalog, to a file or not. -/
  | exportTo (output : Option String)
  /-- Render the demonstration. -/
  | demo
  deriving DecidableEq

/-- **What a command line asks for.** -/
structure Options where
  sources : Sources
  format : Format
  request : Request
  deriving DecidableEq

/-- One thing that a command line says. -/
inductive Part where
  | catalog (path : String)
  | withoutStandard
  | format (format : Format)
  | category (label : String)
  | output (path : String)
  /-- Two dashes. -/
  | terminator
  | operand (text : String)
  deriving DecidableEq

/-- A path, which may not be empty. -/
def path? (text : String) : Option String := if text.isEmpty then none else some text

def valued : List (String × (String → Option Part)) := [
  ("--catalog", fun value => Part.catalog <$> path? value),
  ("--format", fun value => Part.format <$> Format.ofName? value),
  ("--category", fun value => some (.category value)),
  ("--output", fun value => Part.output <$> path? value)]

/-- Does a word look like an option?  A single dash does not. -/
def looksLikeOption (word : String) : Bool := word.startsWith "-" && word != "-"

/-- A word with an equals sign, cut at the first of them. -/
def assignment? (word : String) : Option (String × String) :=
  let cs := word.toList
  match cs.dropWhile (· != '=') with
  | _ :: value => some (String.ofList (cs.takeWhile (· != '=')), String.ofList value)
  | [] => none

/-- An option whose value stands behind an equals sign. -/
def assigned? (word : String) : Option Part := do
  let (name, value) ← assignment? word
  (← valued.lookup name) value

/-- **What the words of a command line say**, if every word that looks like an option is one. -/
def parts? : List String → Option (List Part)
  | [] => some []
  | word :: words =>
    if word == "--" then some (.terminator :: words.map .operand)
    else if !looksLikeOption word then (.operand word :: ·) <$> parts? words
    else if word == "--no-builtin" then (.withoutStandard :: ·) <$> parts? words
    else
      match valued.lookup word, words with
      | some read, value :: words =>
        if looksLikeOption value then none
        else do
          let part ← read value
          (part :: ·) <$> parts? words
      | some _, [] => none
      | none, words => do
        let part ← assigned? word
        (part :: ·) <$> parts? words

/-- The only one of some values, or none; two are too many. -/
def atMostOne {α : Type} : List α → Option (Option α)
  | [] => some none
  | [value] => some (some value)
  | _ => none

/-- **What is said on one side of the name of a command.** -/
structure Said where
  catalogs : List String
  withoutStandard : Bool
  format : Option Format
  category : Option String
  output : Option String
  operands : List String

/-- Sorts out what is said; only catalogs and operands may be there several times. -/
def Said.of? (parts : List Part) : Option Said := do
  let withoutStandard ← atMostOne (parts.filter (· == .withoutStandard))
  let format ← atMostOne (parts.filterMap fun | .format f => some f | _ => none)
  let category ← atMostOne (parts.filterMap fun | .category c => some c | _ => none)
  let output ← atMostOne (parts.filterMap fun | .output p => some p | _ => none)
  return {
    catalogs := parts.filterMap fun | .catalog p => some p | _ => none
    withoutStandard := withoutStandard.isSome
    format, category, output
    operands := parts.filterMap fun | .operand text => some text | _ => none }

/-- Is this a part that may stand before the name of a command? -/
def isGeneral : Part → Bool
  | .catalog _ | .withoutStandard | .format _ => true
  | _ => false

def request? (name : String) (said : Said) : Option Request :=
  match name, said.category, said.output, said.operands with
  | "list", category, none, [] => some (.list category)
  | "describe", none, none, [name] => some (.describe name)
  | "check", none, none, file :: files => .check <$> (file :: files).mapM path?
  | "export", none, output, [] => some (.exportTo output)
  | "demo", none, none, [] => some .demo
  | _, _, _, _ => none

/-- **What a command line asks for**, if it is one. -/
def Options.ofWords? (words : List String) : Option Options := do
  let parts ← parts? words
  let general := parts.takeWhile isGeneral
  match parts.dropWhile isGeneral with
  | .operand name :: special =>
    let before ← Said.of? general
    let behind ← Said.of? special
    let request ← request? name behind
    return {
      sources := {
        withStandard := !before.withoutStandard && !behind.withoutStandard
        files := if behind.catalogs.isEmpty then before.catalogs else behind.catalogs }
      format := ((behind.format <|> before.format)).getD .table
      request }
  | _ => none

end Command
end Partitura
