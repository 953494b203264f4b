import Partitura.Element
/-!
# Element.Equality — equality of elements is decidable

Elements are equal if they have equal parts.  Two toggles are equal only if they have one `id`, so a slur is not equal
to another slur.
-/
namespace Partitura

mutual
/-- Compares two elements part by part. -/
def Element.same : Element → Element → Bool
  | .node a, .node b => Node.same a b
  | .toggle a, .toggle b => Toggle.same a b
  | .tone a, .tone b => Tone.same a b
  | .text a, .text b => a == b
  | .comment a, .comment b => a == b
  | _, _ => false
  termination_by structural a => a
def Node.same : Node → Node → Bool
  | ⟨r, p, vs, none⟩, ⟨r', p', vs', none⟩ => r == r' && p == p' && sameParameters vs vs'
  | ⟨r, p, vs, some cs⟩, ⟨r', p', vs', some cs'⟩ =>
    r == r' && p == p' && sameParameters vs vs' && sameElements cs cs'
  | _, _ => false
  termination_by structural a => a
def Value.same : Value → Value → Bool
  | .leaf a, .leaf b => a == b
  | .element a, .element b => Element.same a b
  | _, _ => false
  termination_by structural a => a
def Toggle.same : Toggle → Toggle → Bool
  | ⟨i, o, c⟩, ⟨i', o', c'⟩ => i == i' && o == o' && Closing.same c c'
  termination_by structural a => a
def Closing.same : Closing → Closing → Bool
  | .mark a, .mark b => a == b
  | .node a, .node b => Node.same a b
  | _, _ => false
  termination_by structural a => a
def Tone.same : Tone → Tone → Bool
  | ⟨s, as⟩, ⟨s', as'⟩ => s == s' && sameElements as as'
  termination_by structural a => a
def sameParameters : List (String × Value) → List (String × Value) → Bool
  | [], [] => true
  | (n, v) :: vs, (n', v') :: vs' => n == n' && Value.same v v' && sameParameters vs vs'
  | _, _ => false
  termination_by structural a => a
def sameElements : List Element → List Element → Bool
  | [], [] => true
  | e :: es, e' :: es' => Element.same e e' && sameElements es es'
  | _, _ => false
  termination_by structural a => a
end

mutual
theorem Element.same_iff : ∀ a b : Element, Element.same a b = true ↔ a = b
  | .node a, b => by cases b <;> simp [Element.same, Node.same_iff a]
  | .toggle a, b => by cases b <;> simp [Element.same, Toggle.same_iff a]
  | .tone a, b => by cases b <;> simp [Element.same, Tone.same_iff a]
  | .text a, b => by cases b <;> simp [Element.same]
  | .comment a, b => by cases b <;> simp [Element.same]
  termination_by structural a => a
theorem Node.same_iff : ∀ a b : Node, Node.same a b = true ↔ a = b
  | ⟨r, p, vs, none⟩, ⟨r', p', vs', none⟩ => by simp [Node.same, sameParameters_iff vs, and_assoc]
  | ⟨r, p, vs, none⟩, ⟨r', p', vs', some _⟩ => by simp [Node.same]
  | ⟨r, p, vs, some cs⟩, ⟨r', p', vs', none⟩ => by simp [Node.same]
  | ⟨r, p, vs, some cs⟩, ⟨r', p', vs', some cs'⟩ => by
    simp [Node.same, sameParameters_iff vs, sameElements_iff cs, and_assoc]
  termination_by structural a => a
theorem Value.same_iff : ∀ a b : Value, Value.same a b = true ↔ a = b
  | .leaf a, b => by cases b <;> simp [Value.same]
  | .element a, b => by cases b <;> simp [Value.same, Element.same_iff a]
  termination_by structural a => a
theorem Toggle.same_iff : ∀ a b : Toggle, Toggle.same a b = true ↔ a = b
  | ⟨i, o, c⟩, ⟨i', o', c'⟩ => by simp [Toggle.same, Closing.same_iff c, and_assoc]
  termination_by structural a => a
theorem Closing.same_iff : ∀ a b : Closing, Closing.same a b = true ↔ a = b
  | .mark a, b => by cases b <;> simp [Closing.same]
  | .node a, b => by cases b <;> simp [Closing.same, Node.same_iff a]
  termination_by structural a => a
theorem Tone.same_iff : ∀ a b : Tone, Tone.same a b = true ↔ a = b
  | ⟨s, as⟩, ⟨s', as'⟩ => by simp [Tone.same, sameElements_iff as]
  termination_by structural a => a
theorem sameParameters_iff : ∀ as bs : List (String × Value), sameParameters as bs = true ↔ as = bs
  | [], bs => by cases bs <;> simp [sameParameters]
  | (n, v) :: as, [] => by simp [sameParameters]
  | (n, v) :: as, (n', v') :: bs => by simp [sameParameters, Value.same_iff v, sameParameters_iff as]
  termination_by structural a => a
theorem sameElements_iff : ∀ as bs : List Element, sameElements as bs = true ↔ as = bs
  | [], bs => by cases bs <;> simp [sameElements]
  | a :: as, bs => by cases bs <;> simp [sameElements, Element.same_iff a, sameElements_iff as]
  termination_by structural a => a
end

instance : DecidableEq Element := fun a b => decidable_of_iff (Element.same a b = true) (Element.same_iff a b)
instance : DecidableEq Node := fun a b => decidable_of_iff (Node.same a b = true) (Node.same_iff a b)
instance : DecidableEq Value := fun a b => decidable_of_iff (Value.same a b = true) (Value.same_iff a b)
instance : DecidableEq Toggle := fun a b => decidable_of_iff (Toggle.same a b = true) (Toggle.same_iff a b)
instance : DecidableEq Tone := fun a b => decidable_of_iff (Tone.same a b = true) (Tone.same_iff a b)

end Partitura
