import Partitura.Catalog.Definition
import Partitura.Proofs.Outcome
/-!
# Proofs.Catalog.Words — rules come back from their words

Every label that a rule is written with is in the vocabulary, so reading what was written gives the rule again.  A kind
of value is never called what stands for anything.
-/
namespace Partitura

theorem Category.ofLabel_label (c : Category) : Category.ofLabel c.label = .ok c := by
  rw [Category.ofLabel, Category.ofLabel?_label]

theorem LeafKind.ofLabel_label (k : LeafKind) : LeafKind.ofLabel k.label = .ok k := by
  rw [LeafKind.ofLabel, LeafKind.ofLabel?_label]

theorem LeafKind.label_ne_any (k : LeafKind) : k.label ≠ anyLabel := by
  cases k <;> decide

theorem CategorySet.ofLabels_labels (s : CategorySet) : CategorySet.ofLabels s.labels = .ok s := by
  unfold CategorySet.ofLabels CategorySet.labels
  rw [mapM_map_pure fun c _ => Category.ofLabel_label c]
  exact congrArg Except.ok s.ofList_toList

theorem KindDefinition.toKind_ofKind (kind : ParameterKind) : (KindDefinition.ofKind kind).toKind = .ok kind := by
  cases kind with
  | any => rfl
  | leaf k =>
    have hother : (k.label == anyLabel) = false := beq_eq_false_iff_ne.2 k.label_ne_any
    rw [KindDefinition.ofKind, KindDefinition.toKind, hother, LeafKind.ofLabel_label]
    rfl
  | node cs =>
    rw [KindDefinition.ofKind, KindDefinition.toKind, CategorySet.ofLabels_labels]
    rfl

theorem ParameterDefinition.toParameter_ofParameter (p : Parameter) :
    (ParameterDefinition.ofParameter p).toParameter = .ok p := by
  rw [ParameterDefinition.ofParameter, ParameterDefinition.toParameter, KindDefinition.toKind_ofKind]
  rfl

/-- **A rule comes back from its words.** -/
theorem Definition.toRule_ofRule (r : Rule) : (Definition.ofRule r).toRule = .ok r := by
  obtain ⟨name, tag, categories, parameters, content, inline, opening, closing⟩ := r
  rw [Definition.ofRule, Definition.toRule]
  dsimp only
  rw [mapM_map_pure fun p _ => ParameterDefinition.toParameter_ofParameter p, pure_eq_ok, ok_bind,
    CategorySet.ofLabels_labels, ok_bind]
  cases content with
  | none => rfl
  | some allowed =>
    rw [Option.map_some]
    dsimp only
    rw [CategorySet.ofLabels_labels]
    rfl

end Partitura
