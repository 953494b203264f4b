import Partitura.Catalog.Standard
import Partitura.Catalog.Text
/-!
# Catalog.Source — registries from several catalogs

A registry is built from the standard table, unless it is left out, and from catalog files in the order given.  Names
are unique across all of them.  How files are read is a parameter, a function from paths to texts, and so is the
encoding of the catalogs in them.
-/
namespace Partitura

/-- A way of reading files by their paths. -/
abbrev ReadFile := String → Except FileError String

/-- **Where a catalog comes from.** -/
inductive Source where
  | standard
  | file (path : String)
  deriving DecidableEq

namespace Source

def origin : Source → String
  | standard => "built-in catalog"
  | file path => path

/-- The catalog of a source.  The standard table is there without a document. -/
def load (y : Data.Encoding) (read : ReadFile) : Source → Except CatalogError Catalog
  | standard => Catalog.checked .standard
  | file path => Catalog.load y (read path)

def registerInto (y : Data.Encoding) (read : ReadFile) (s : Source) (g : Registry) : Except CatalogError Registry := do
  let c ← s.load y read
  c.register s.origin g

/-- Registers sources one after the other, up to the first error. -/
def registerAll (y : Data.Encoding) (read : ReadFile) : Registry → List Source → Except CatalogError Registry
  | g, [] => .ok g
  | g, s :: ss => do
    let g ← s.registerInto y read g
    registerAll y read g ss

end Source

/-- **What a registry is to be built from.** -/
structure Sources where
  /-- Does the standard table come first? -/
  withStandard : Bool
  /-- The catalog files, in their order. -/
  files : List String
  deriving DecidableEq

namespace Sources

/-- Nothing but the standard table. -/
def standard : Sources := ⟨true, []⟩

/-- The sources, in the order in which they are registered. -/
def toList (s : Sources) : List Source :=
  (if s.withStandard then [.standard] else []) ++ s.files.map .file

/-- **The registry of all sources.** -/
def build (y : Data.Encoding) (read : ReadFile) (s : Sources) : Except CatalogError Registry :=
  Source.registerAll y read .empty s.toList

end Sources

/-- The standard rules in a registry of their own; they are well-formed, so registering them leaves out none. -/
def Registry.standard : Registry := (Catalog.standard.registerInto .empty).1

end Partitura
