import Partitura.Category
/-!
# Category.Set — sets of labels

A set is one bit per category.  It lists its members in the order of the vocabulary, whatever the order they came in.
-/
namespace Partitura

/-- **A set of categories**, one bit for each. -/
structure CategorySet where
  bits : BitVec 10
  deriving DecidableEq

namespace CategorySet

/-- The set without members. -/
def empty : CategorySet := ⟨0⟩

def contains (s : CategorySet) (c : Category) : Bool := s.bits.getLsbD c.index

def insert (s : CategorySet) (c : Category) : CategorySet := ⟨s.bits ||| BitVec.twoPow 10 c.index⟩

def ofList (cs : List Category) : CategorySet := cs.foldl insert empty

def single (c : Category) : CategorySet := empty.insert c

def toList (s : CategorySet) : List Category := Category.all.filter s.contains

def size (s : CategorySet) : Nat := s.toList.length

/-- Is there no member? -/
def isEmpty (s : CategorySet) : Bool := s.bits == 0

/-- **Do two sets share a member?** -/
def intersects (s t : CategorySet) : Bool := s.bits &&& t.bits != 0

def labels (s : CategorySet) : List String := s.toList.map Category.label

/-- The set in a message: its labels, or the word for none. -/
def text (s : CategorySet) : String :=
  if s.isEmpty then "nothing" else ", ".intercalate s.labels

/-- The set as its members' names in braces. -/
def braced (s : CategorySet) : String :=
  "\x7b" ++ ", ".intercalate (s.toList.map Category.name) ++ "\x7d"

@[simp] theorem contains_empty (c : Category) : empty.contains c = false := by
  simp [empty, contains]

@[simp] theorem contains_insert (s : CategorySet) (c d : Category) :
    (s.insert c).contains d = (s.contains d || decide (c = d)) := by
  simp only [insert, contains, BitVec.getLsbD_or, BitVec.getLsbD_twoPow]
  have hc := c.index_lt
  by_cases h : c = d
  · simp [h, d.index_lt]
  · have : c.index ≠ d.index := fun e => h (Category.index_inj e)
    simp [h, this]

theorem contains_foldl_insert (cs : List Category) : ∀ (s : CategorySet) (c : Category),
    (cs.foldl insert s).contains c = (s.contains c || decide (c ∈ cs)) := by
  induction cs with
  | nil => simp
  | cons d cs ih =>
    intro s c
    rw [List.foldl_cons, ih, contains_insert]
    simp [List.mem_cons, Bool.or_assoc, eq_comm]

@[simp] theorem contains_ofList (cs : List Category) (c : Category) :
    (ofList cs).contains c = decide (c ∈ cs) := by
  simp [ofList, contains_foldl_insert]

theorem ext_contains {s t : CategorySet} (h : ∀ c, s.contains c = t.contains c) : s = t := by
  obtain ⟨a⟩ := s
  obtain ⟨b⟩ := t
  congr 1
  apply BitVec.eq_of_getLsbD_eq
  intro i hi
  have hall : ∀ i < 10, ∃ c ∈ Category.all, c.index = i := by decide
  obtain ⟨c, -, rfl⟩ := hall i hi
  exact h c

@[simp] theorem mem_toList (s : CategorySet) (c : Category) : c ∈ s.toList ↔ s.contains c = true := by
  simp [toList, Category.mem_all]

@[simp] theorem ofList_toList (s : CategorySet) : ofList s.toList = s := by
  apply ext_contains
  intro c
  simp

end CategorySet
end Partitura
