import Partitura.Data
/-!
# Data.Equality — equality of readings is decidable

Two readings are equal if they are of one shape and have equal parts.
-/
namespace Partitura
namespace Reading

mutual
/-- Compares two readings part by part. -/
def same : Reading → Reading → Bool
  | scalar a, scalar b => a == b
  | list r w as, list r' w' bs => r == r' && w == w' && sameItems as bs
  | record as, record bs => sameEntries as bs
  | _, _ => false
def sameItems : List Reading → List Reading → Bool
  | [], [] => true
  | a :: as, b :: bs => same a b && sameItems as bs
  | _, _ => false
def sameEntries : List (Option String × Reading) → List (Option String × Reading) → Bool
  | [], [] => true
  | (k, a) :: as, (k', b) :: bs => k == k' && same a b && sameEntries as bs
  | _, _ => false
end

mutual
theorem same_iff : ∀ a b : Reading, same a b = true ↔ a = b
  | scalar a, b => by cases b <;> simp [same]
  | list r w as, b => by cases b <;> simp [same, sameItems_iff as, and_assoc]
  | record as, b => by cases b <;> simp [same, sameEntries_iff as]
theorem sameItems_iff : ∀ as bs : List Reading, sameItems as bs = true ↔ as = bs
  | [], bs => by cases bs <;> simp [sameItems]
  | a :: as, bs => by cases bs <;> simp [sameItems, same_iff a, sameItems_iff as]
theorem sameEntries_iff : ∀ as bs : List (Option String × Reading), sameEntries as bs = true ↔ as = bs
  | [], bs => by cases bs <;> simp [sameEntries]
  | (k, a) :: as, [] => by simp [sameEntries]
  | (k, a) :: as, (k', b) :: bs => by simp [sameEntries, same_iff a, sameEntries_iff as]
end

instance : DecidableEq Reading := fun a b => decidable_of_iff (same a b = true) (same_iff a b)

end Reading
end Partitura
