/-!
# Data — trees that are written to documents, and read from them

Catalogs and reports are turned into trees of texts, truth values, counts, lists and records before they are written.  A
record keeps its fields in the order in which they are to be written.

What a scalar is depends on what is asked for: the same characters may do as a text, as a truth value, or as the word
for no value at all.  A reading therefore keeps, for each scalar, what it may be taken for, and the question decides.  A
record may have a field several times, and fields nobody asks for; only a field that is asked for must be there once.
-/
namespace Partitura

/-- **A tree of data.** -/
inductive Data where
  | text (text : String)
  | flag (value : Bool)
  | count (value : Nat)
  | list (items : List Data)
  | record (fields : List (String × Data))

def Data.texts (items : List String) : Data := .list (items.map .text)

/-! ## Readings -/

/-- **What the characters of a scalar may be taken for.** -/
structure Scalar where
  /-- Its text, where a text is asked for. -/
  text : Option String
  /-- Its text, where the scalar itself has to be a text rather than a number, a truth value or nothing. -/
  word : Option String
  /-- Its truth value, if it is one. -/
  flag : Option Bool
  /-- Does it say that there is no value? -/
  isNothing : Bool
  /-- Is it left out altogether, and so does for a list without items? -/
  isBlank : Bool
  deriving DecidableEq

namespace Scalar

/-- A scalar that does for nothing that may be asked for. -/
def unreadable : Scalar := ⟨none, none, none, false, false⟩

/-- A text and nothing else. -/
def ofText (text : String) : Scalar := { unreadable with text, word := text }

/-- The words for a truth value. -/
def ofFlag (value : Bool) : Scalar := { unreadable with text := some (toString value), flag := value }

def ofCount (value : Nat) : Scalar := { unreadable with text := value.repr }

end Scalar

/-- **A tree as a document gives it.** -/
inductive Reading where
  | scalar (scalar : Scalar)
  /-- A list; some lists may also stand for a record, the fields in their order, some may not be a list of words. -/
  | list (asRecord asWords : Bool) (items : List Reading)
  /-- A record; a key that is no text is none. -/
  | record (entries : List (Option String × Reading))

namespace Reading

def text? : Reading → Option String
  | scalar s => s.text
  | _ => none

/-- The text of a scalar that is a text by itself. -/
def word? : Reading → Option String
  | scalar s => s.word
  | _ => none

def flag? : Reading → Option Bool
  | scalar s => s.flag
  | _ => none

/-- Is it said that there is no value? -/
def isNothing : Reading → Bool
  | scalar s => s.isNothing
  | _ => false

def items? : Reading → Option (List Reading)
  | list _ _ items => some items
  | scalar s => if s.isBlank then some [] else none
  | record _ => none

def texts? (r : Reading) : Option (List String) := r.items? >>= List.mapM text?

def words? : Reading → Option (List String)
  | list _ true items => items.mapM word?
  | _ => none

/-- A term of a closed vocabulary: a text, or a record with the text as its only key and no value. -/
def term? : Reading → Option String
  | scalar s => s.text
  | record [(some key, value)] => if value.isNothing then some key else none
  | _ => none

/-- **The known fields of a record.**  A known field that is there twice and a key that is no text are refused; a list
that stands for a record has at most as many items as there are fields. -/
def fields? (known : List String) : Reading → Option (List (String × Reading))
  | record entries => do
    let fields ← entries.mapM fun (key, value) => key.map (·, value)
    let fields := fields.filter fun field => known.contains field.1
    if (fields.map Prod.fst).Nodup then some fields else none
  | list true _ items => if items.length ≤ known.length then some (known.zip items) else none
  | _ => none

/-- The value of a field that has to be there. -/
def required {α : Type} (fields : List (String × Reading)) (name : String)
    (read : Reading → Option α) : Option α :=
  fields.lookup name >>= read

/-- The value of a field that stands for `default` if it is not there. -/
def defaulting {α : Type} (fields : List (String × Reading)) (name : String) (default : α)
    (read : Reading → Option α) : Option α :=
  match fields.lookup name with
  | some value => read value
  | none => some default

mutual
/-- **The reading of a tree of data**: every scalar does for what it is. -/
def ofData : Data → Reading
  | .text text => scalar (.ofText text)
  | .flag value => scalar (.ofFlag value)
  | .count value => scalar (.ofCount value)
  | .list items => list false true (ofItems items)
  | .record fields => record (ofFields fields)
def ofItems : List Data → List Reading
  | [] => []
  | item :: items => ofData item :: ofItems items
def ofFields : List (String × Data) → List (Option String × Reading)
  | [] => []
  | (key, value) :: fields => (some key, ofData value) :: ofFields fields
end

end Reading

/-- **A way of writing trees as texts**, and of reading texts as trees. -/
structure Data.Encoding where
  write : Data → String
  read? : String → Option Reading

end Partitura
