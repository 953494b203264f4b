import Partitura.Leaf
/-!
# Leaf.Equality — equality of values is decidable

Two values are equal if they are of one kind and have equal parts.
-/
namespace Partitura
namespace Leaf

mutual
/-- Compares two values part by part. -/
def same : Leaf → Leaf → Bool
  | boolean a, boolean b => a == b
  | unsignedInt a, unsignedInt b => a == b
  | signedInt a, signedInt b => a == b
  | unsignedFloat a, unsignedFloat b => a == b
  | signedFloat a, signedFloat b => a == b
  | string a, string b => a == b
  | symbol a, symbol b => a == b
  | direction a, direction b => a == b
  | axis a, axis b => a == b
  | color a, color b => a == b
  | pair a a', pair b b' => same a b && same a' b'
  | list a, list b => sameItems a b
  | associationList a, associationList b => sameEntries a b
  | procedure a, procedure b => a == b
  | _, _ => false
def sameItems : List Leaf → List Leaf → Bool
  | [], [] => true
  | a :: as, b :: bs => same a b && sameItems as bs
  | _, _ => false
def sameEntries : List (Leaf × Leaf) → List (Leaf × Leaf) → Bool
  | [], [] => true
  | (a, a') :: as, (b, b') :: bs => same a b && same a' b' && sameEntries as bs
  | _, _ => false
end

mutual
theorem same_iff : ∀ a b : Leaf, same a b = true ↔ a = b
  | boolean a, b => by cases b <;> simp [same]
  | unsignedInt a, b => by cases b <;> simp [same]
  | signedInt a, b => by cases b <;> simp [same]
  | unsignedFloat a, b => by cases b <;> simp [same]
  | signedFloat a, b => by cases b <;> simp [same]
  | string a, b => by cases b <;> simp [same]
  | symbol a, b => by cases b <;> simp [same]
  | direction a, b => by cases b <;> simp [same]
  | axis a, b => by cases b <;> simp [same]
  | color a, b => by cases b <;> simp [same]
  | pair a a', b => by cases b <;> simp [same, same_iff a, same_iff a']
  | list a, b => by cases b <;> simp [same, sameItems_iff a]
  | associationList a, b => by cases b <;> simp [same, sameEntries_iff a]
  | procedure a, b => by cases b <;> simp [same]
theorem sameItems_iff : ∀ as bs : List Leaf, sameItems as bs = true ↔ as = bs
  | [], bs => by cases bs <;> simp [sameItems]
  | a :: as, bs => by cases bs <;> simp [sameItems, same_iff a, sameItems_iff as]
theorem sameEntries_iff : ∀ as bs : List (Leaf × Leaf), sameEntries as bs = true ↔ as = bs
  | [], bs => by cases bs <;> simp [sameEntries]
  | (a, a') :: as, bs => by
    cases bs with
    | nil => simp [sameEntries]
    | cons b bs => obtain ⟨b, b'⟩ := b; simp [sameEntries, same_iff a, same_iff a', sameEntries_iff as]
end

instance : DecidableEq Leaf := fun a b => decidable_of_iff (same a b = true) (same_iff a b)

end Leaf
end Partitura
