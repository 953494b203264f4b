import Partitura.Node.Change
import Partitura.Proofs.Acceptance
/-!
# Proofs.Node.Valid — trees whose nodes all fit their rules

A node fits its rule when its values, its children and its position are what the rule says.  An element is valid when
every node in it fits, wherever it stands: among children, as a value, after a tone or at the end of a hairpin.
-/
namespace Partitura

/-- **A node that is as its rule says**, whatever is inside its values and children. -/
structure Node.Fits (n : Node) : Prop where
  /-- The rule declares every name once. -/
  declared : (n.rule.parameters.map (·.name)).Nodup
  /-- The bound names are declared, and stand in the order of the declarations. -/
  ordered : (n.parameters.map Prod.fst).Sublist (n.rule.parameters.map (·.name))
  /-- No name is bound twice. -/
  distinct : (n.parameters.map Prod.fst).Nodup
  required : ∀ p ∈ n.rule.parameters, p.optional = false → p.name ∈ n.parameters.map Prod.fst
  /-- A value is one that the kind of its parameter accepts. -/
  accepted : ∀ name v, (name, v) ∈ n.parameters → ∃ p ∈ n.rule.parameters, p.name = name ∧ p.kind.accepts v = true
  /-- There are children exactly if the rule is that of a container. -/
  container : n.children.isSome = n.rule.isContainer
  /-- A child shares a category with what the rule accepts. -/
  content : ∀ children allowed, n.children = some children → n.rule.content = some allowed →
    ∀ child ∈ children, allowed.intersects child.categories = true
  /-- Only an attachment has a position. -/
  position : n.position ≠ .unset → n.rule.isAttachment = true

mutual
/-- **Every node in the element fits its rule**, every attachment of a tone is one by its categories, and every node
that ends a hairpin is an inline attachment. -/
def Element.Valid : Element → Prop
  | .node n => Node.Valid n
  | .toggle t => Toggle.Valid t
  | .tone t => Tone.Valid t
  | .text _ => True
  | .comment _ => True
  termination_by structural e => e
/-- The node fits its rule, and its values and children are valid. -/
def Node.Valid : Node → Prop
  | ⟨r, p, vs, none⟩ => Node.Fits ⟨r, p, vs, none⟩ ∧ validValues vs
  | ⟨r, p, vs, some children⟩ => Node.Fits ⟨r, p, vs, some children⟩ ∧ validValues vs ∧ validElements children
  termination_by structural n => n
def Value.Valid : Value → Prop
  | .leaf _ => True
  | .element e => Element.Valid e
  termination_by structural v => v
def Toggle.Valid : Toggle → Prop
  | ⟨_, _, closing⟩ => Closing.Valid closing
  termination_by structural t => t
/-- A mark, or a valid node that may end a hairpin. -/
def Closing.Valid : Closing → Prop
  | .mark _ => True
  | .node n => n.rule.isAttachment = true ∧ n.rule.inline = true ∧ Node.Valid n
  termination_by structural closing => closing
/-- What is attached is valid and may be. -/
def Tone.Valid : Tone → Prop
  | ⟨_, attachments⟩ => (∀ a ∈ attachments, a.categories.contains .attachment = true) ∧ validElements attachments
  termination_by structural t => t
def validValues : List (String × Value) → Prop
  | [] => True
  | (_, v) :: vs => Value.Valid v ∧ validValues vs
  termination_by structural vs => vs
def validElements : List Element → Prop
  | [] => True
  | e :: es => Element.Valid e ∧ validElements es
  termination_by structural es => es
end

theorem validValues_iff : ∀ vs : List (String × Value), validValues vs ↔ ∀ entry ∈ vs, entry.2.Valid
  | [] => by simp [validValues]
  | (name, v) :: vs => by simp [validValues, validValues_iff vs]

theorem validElements_iff : ∀ es : List Element, validElements es ↔ ∀ e ∈ es, e.Valid
  | [] => by simp [validElements]
  | e :: es => by simp [validElements, validElements_iff es]

theorem Tone.valid_iff (t : Tone) : t.Valid ↔
    (∀ a ∈ t.attachments, a.categories.contains .attachment = true) ∧ ∀ a ∈ t.attachments, a.Valid := by
  obtain ⟨sound, attachments⟩ := t
  rw [Tone.Valid, validElements_iff]

namespace Node

theorem valid_iff (n : Node) : n.Valid ↔
    n.Fits ∧ (∀ entry ∈ n.parameters, entry.2.Valid) ∧
      ∀ children, n.children = some children → ∀ e ∈ children, e.Valid := by
  obtain ⟨r, p, vs, children⟩ := n
  cases children with
  | none => simp [Valid, validValues_iff]
  | some children => simp [Valid, validValues_iff, validElements_iff]

end Node
end Partitura
