import Partitura.Command
import Partitura.Json.Writer
import Partitura.Yaml.Reading
/-!
# Main — the program

Reads the files that the command line names, lets `Command` decide, writes what it answers.  Documents are in YAML and
JSON as this library reads and writes them.
-/
open Partitura Partitura.Command

def encodings : Encodings := ⟨Yaml.encoding, Json.write⟩

def numbered : IO.Error → UInt32 × String
  | .alreadyExists _ number reason | .noFileOrDirectory _ number reason | .interrupted _ number reason
  | .invalidArgument _ number reason | .permissionDenied _ number reason | .resourceExhausted _ number reason
  | .inappropriateType _ number reason | .noSuchThing _ number reason | .otherError number reason
  | .resourceBusy number reason | .resourceVanished number reason | .unsupportedOperation number reason
  | .hardwareFault number reason | .unsatisfiedConstraints number reason | .illegalOperation number reason
  | .protocolError number reason | .timeExpired number reason => (number, reason)
  | error => (0, toString error)

/-- What an error of the system is called.  Some parts of the system count their errors downwards from zero. -/
def fileError (error : IO.Error) : FileError :=
  let (number, reason) := numbered error
  .ofNumber (if number < 0x80000000 then number else 0 - number).toNat reason

def readInput (path : String) : IO (String × Except FileError String) := do
  try
    match String.fromUTF8? (← IO.FS.readBinFile path) with
    | some text => return (path, .ok text)
    | none => return (path, .error .notText)
  catch error => return (path, .error (fileError error))

def attempt (wrap : FileError → CommandError) (step : IO Unit) : IO (Except CommandError Unit) := do
  try
    step
    return .ok ()
  catch error => return .error (wrap (fileError error))

def save (path text : String) : IO (Except CommandError Unit) := do
  let made ← match Path.parent? path with
    | some parent => attempt (.directory parent) (IO.FS.createDirAll parent)
    | none => pure (.ok ())
  match made with
  | .ok () => attempt (.output path) (IO.FS.writeFile path text)
  | .error e => return .error e

def finish : Except CommandError String → IO UInt32
  | .ok text => do
    (← IO.getStdout).putStr text
    return success.toUInt32
  | .error e => do
    (← IO.getStderr).putStr (complaint e)
    return failure.toUInt32

def main (words : List String) : IO UInt32 := do
  match Options.ofWords? words with
  | none => return misuse.toUInt32
  | some options =>
    let inputs ← options.inputs.mapM readInput
    match options.answer encodings fun path => (inputs.lookup path).getD (.error .notFound) with
    | .ok (.print text) => finish (.ok text)
    | .ok (.save path text after) => do
      let saved ← save path text
      finish (saved.map fun () => after)
    | .error e => finish (.error e)
