import Partitura.Catalog.Data
import Partitura.Files.Error
/-!
# Catalog.Text — catalogs as texts and files

How catalogs are written as texts and read from them is a parameter, an encoding of trees.  A catalog is read as a whole
before its version is looked at, so a faulty document of a later version is a faulty document.
-/
namespace Partitura

/-- **Why a catalog cannot be read or registered.** -/
inductive CatalogError where
  /-- Its file cannot be reached. -/
  | file (error : FileError)
  /-- The document cannot be read, or is no catalog. -/
  | unreadable
  /-- The version of its format is none that can be read. -/
  | unsupportedVersion (version : String)
  /-- The registry refuses one of its definitions. -/
  | invalidDefinition (origin : String) (error : RuleError)
  deriving DecidableEq

def CatalogError.message : CatalogError → String
  | file error => "I/O error: " ++ error.message
  | unreadable => "YAML error: the document is not a catalog"
  | unsupportedVersion version => "unsupported catalog version: " ++ Text.shown version
  | invalidDefinition origin error => "invalid element in " ++ origin ++ ": " ++ error.message

namespace Catalog

/-- A catalog whose version can be read. -/
def checked (c : Catalog) : Except CatalogError Catalog :=
  if isSupported c.version then .ok c else .error (.unsupportedVersion c.version)

/-- **The catalog of a tree** that a document gives, if it gives one. -/
def ofTree (tree : Option Reading) : Except CatalogError Catalog :=
  match tree >>= ofReading? with
  | some c => checked c
  | none => .error .unreadable

/-- **The catalog of a text** in some encoding. -/
def decode (y : Data.Encoding) (text : String) : Except CatalogError Catalog := ofTree (y.read? text)

/-- **The text of a catalog** in some encoding. -/
def encode (c : Catalog) (y : Data.Encoding) : String := y.write c.toData

/-- **The catalog of a file** in some encoding.  What can be opened but has no text in it is no document. -/
def load (y : Data.Encoding) : Except FileError String → Except CatalogError Catalog
  | .ok text => decode y text
  | .error .isADirectory | .error .notText => .error .unreadable
  | .error e => .error (.file e)

/-- **Registers a whole catalog** as the caller sees it: the registry it comes to, and either the number of rules or
which definition of which catalog is refused. -/
def registration (c : Catalog) (origin : String) (g : Registry) : Registry × Except CatalogError Nat :=
  match c.registerInto g with
  | (g, none) => (g, .ok c.elements.length)
  | (g, some e) => (g, .error (.invalidDefinition origin e))

def register (c : Catalog) (origin : String) (g : Registry) : Except CatalogError Registry :=
  match c.registration origin g with
  | (g, .ok _) => .ok g
  | (_, .error e) => .error e

end Catalog
end Partitura
