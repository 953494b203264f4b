import Partitura.Files.Error
/-!
# Files — directories and files by their paths

A path is read part by part.  Nothing between two slashes is no part, and neither is a single point behind another part.
In a tree of files paths begin at its root; they lead on from directories only, and every part but the last has to be
there.
-/
namespace Partitura

namespace Path

def parts (path : String) : List String := path.splitOn "/"

/-- The parts from the last to the first, without those at the end that name nothing. -/
def trimmed : List String → List String
  | [] => []
  | part :: before =>
    if part == "" || (part == "." && !before.isEmpty) then trimmed before else part :: before

/-- **The directory that holds what a path names**, if the path says so: the path without its last part. -/
def parent? (path : String) : Option String :=
  match trimmed (parts path).reverse with
  | [] => none
  | _ :: before =>
    match trimmed before with
    | [] => if path.startsWith "/" then some "/" else none
    | kept => some ("/".intercalate kept.reverse)

end Path

/-- **A tree of files.**  Places are lists of names from the root, which is a directory always. -/
structure Files where
  directories : List (List String)
  texts : List (List String × String)

namespace Files

/-- Nothing but the root. -/
def empty : Files := ⟨[], []⟩

def isDirectory (f : Files) (place : List String) : Bool := place.isEmpty || f.directories.contains place

def text? (f : Files) (place : List String) : Option String := f.texts.lookup place

/-- The most bytes that a name may have. -/
def longestName : Nat := 255

/-- One more bytes than a path may have. -/
def longestPath : Nat := 4096

def needDirectory (f : Files) (place : List String) : Except FileError Unit :=
  if f.isDirectory place then .ok ()
  else if (f.text? place).isSome then .error .notADirectory
  else .error .notFound

/-- The place that one part leads to from a directory. -/
def enter (f : Files) (place : List String) (part : String) : Except FileError (List String) := do
  f.needDirectory place
  if part == "" || part == "." then return place
  else if part == ".." then return place.dropLast
  else if longestName < part.utf8ByteSize then throw .nameTooLong
  else return place ++ [part]

def walk (f : Files) : List String → List String → Except FileError (List String)
  | place, [] => .ok place
  | place, part :: parts => do
    let place ← f.enter place part
    walk f place parts

/-- **The place that a path leads to**, whether there is something or not. -/
def resolve (f : Files) (path : String) : Except FileError (List String) :=
  if path.toList.any fun c => c.toNat = 0 then .error .zeroInName
  else if path.isEmpty then .error .notFound
  else if longestPath ≤ path.utf8ByteSize then .error .nameTooLong
  else f.walk [] (Path.parts path)

/-- **The text of a file.** -/
def read (f : Files) (path : String) : Except FileError String := do
  let place ← f.resolve path
  if f.isDirectory place then throw .isADirectory
  match f.text? place with
  | some text => return text
  | none => throw .notFound

/-- The directory above what a path names has to be there. -/
def needParent (f : Files) (path : String) : Except FileError Unit :=
  match Path.parent? path with
  | some parent => f.resolve parent >>= f.needDirectory
  | none => .ok ()

/-- **The tree with another text in a file**, which may be new; its directory has to be there.  A path that ends in a
slash names a directory, whether there is one or not. -/
def write (f : Files) (path text : String) : Except FileError Files := do
  if path.endsWith "/" then
    f.needParent path
    throw .isADirectory
  let place ← f.resolve path
  if f.isDirectory place then throw .isADirectory
  return { f with texts := (place, text) :: f.texts.filter (·.1 != place) }

def makeEach (f : Files) : List String → List String → Except FileError Files
  | _, [] => .ok f
  | place, part :: parts => do
    let place ← f.enter place part
    if f.isDirectory place then makeEach f place parts
    else if (f.text? place).isSome then throw (if parts.isEmpty then .alreadyExists else .notADirectory)
    else makeEach { f with directories := place :: f.directories } place parts

/-- **The tree with a directory and all directories above it.** -/
def makeDirectories (f : Files) (path : String) : Except FileError Files :=
  if path.toList.any fun c => c.toNat = 0 then .error .zeroInName
  else if longestPath ≤ path.utf8ByteSize then .error .nameTooLong
  else f.makeEach [] (Path.parts path)

/-- **Writes a file and makes the directories above it.** -/
def put (f : Files) (path text : String) : Except FileError Files := do
  let f ← match Path.parent? path with
    | some parent => f.makeDirectories parent
    | none => pure f
  f.write path text

end Files

end Partitura
