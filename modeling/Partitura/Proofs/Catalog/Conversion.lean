import Mathlib.Data.List.Basic
import Partitura.Proofs.Catalog.Words
/-!
# Proofs.Catalog.Conversion — definitions and rules stand for each other

A definition is a rule unless a label in it is in no vocabulary; then the first such label is its error.  A rule is one
definition, in which the categories stand in the order of the vocabulary and none stands twice; so a definition that is
read and written again has its categories arranged, and is otherwise as it was.
-/
namespace Partitura

/-! ## Vocabularies -/

def Category.vocabulary : List String := Category.all.map Category.label

def LeafKind.vocabulary : List String := LeafKind.all.map LeafKind.label

theorem find?_label_eq_none_iff {α : Type} {all : List α} {label : α → String} {text : String} :
    all.find? (fun a => label a == text) = none ↔ text ∉ all.map label := by
  simp only [List.find?_eq_none, beq_iff_eq, List.mem_map, not_exists, not_and]

theorem label_of_find?_eq_some {α : Type} {all : List α} {label : α → String} {text : String} {a : α}
    (h : all.find? (fun a => label a == text) = some a) : label a = text :=
  beq_iff_eq.1 (List.find?_some (p := fun a => label a == text) h)

theorem Category.ofLabel_eq (text : String) :
    Category.ofLabel text = (ofLabel? text).elim (.error (.unknownCategory text)) .ok := by
  unfold Category.ofLabel
  cases ofLabel? text <;> rfl

theorem LeafKind.ofLabel_eq (text : String) :
    LeafKind.ofLabel text = (ofLabel? text).elim (.error (.unknownKind text)) .ok := by
  unfold LeafKind.ofLabel
  cases ofLabel? text <;> rfl

theorem Category.label_of_ofLabel {text : String} {c : Category} (h : Category.ofLabel text = .ok c) :
    c.label = text := by
  rw [Category.ofLabel_eq, elim_eq_ok_iff] at h
  exact label_of_find?_eq_some h

theorem LeafKind.label_of_ofLabel {text : String} {k : LeafKind} (h : LeafKind.ofLabel text = .ok k) :
    k.label = text := by
  rw [LeafKind.ofLabel_eq, elim_eq_ok_iff] at h
  exact label_of_find?_eq_some h

/-- **Labels of categories as a rule has them**: those of the vocabulary, each once and in its order. -/
def arranged (labels : List String) : List String := Category.vocabulary.filter (labels.contains ·)

theorem mem_arranged {labels : List String} {label : String} :
    label ∈ arranged labels ↔ label ∈ labels ∧ label ∈ Category.vocabulary := by
  rw [arranged, List.mem_filter, List.contains_iff_mem, and_comm]

theorem sublist_arranged (labels : List String) : (arranged labels).Sublist Category.vocabulary :=
  List.filter_sublist

example : arranged ["music", "markup", "no label", "music"] = ["markup", "music"] := by decide

theorem CategorySet.labels_ofList (cs : List Category) :
    (CategorySet.ofList cs).labels = arranged (cs.map Category.label) := by
  have hinjective : Function.Injective Category.label := fun a b h => by
    have hfound := Category.ofLabel?_label a
    rw [h, Category.ofLabel?_label] at hfound
    exact (Option.some.inj hfound).symm
  rw [labels, toList, arranged, Category.vocabulary, List.filter_map]
  refine congrArg _ (List.filter_congr fun c _ => ?_)
  rw [contains_ofList, Bool.eq_iff_iff, decide_eq_true_eq, Function.comp_apply, List.contains_iff_mem,
    List.mem_map_of_injective hinjective]

theorem CategorySet.labels_of_ofLabels {labels : List String} {s : CategorySet}
    (h : CategorySet.ofLabels labels = .ok s) : s.labels = arranged labels := by
  obtain ⟨cs, hcs, rfl⟩ := map_eq_ok_iff.1 h
  have hlabels : cs.map Category.label = labels.map id :=
    map_of_mapM_eq_ok hcs fun label _ c hc => Category.label_of_ofLabel hc
  rw [CategorySet.labels_ofList, hlabels, List.map_id]

/-- The content of a definition, as a set if there is one. -/
def Definition.contentSet : Option (List String) → Except RuleError (Option CategorySet)
  | some labels => some <$> CategorySet.ofLabels labels
  | none => .ok none

theorem Definition.toRule_eq (d : Definition) : d.toRule =
    d.parameters.mapM ParameterDefinition.toParameter >>= fun parameters =>
      CategorySet.ofLabels d.categories >>= fun categories =>
        contentSet d.content >>= fun content =>
          .ok ⟨d.name, d.tag, categories, parameters, content, d.inline, d.opening, d.closing⟩ := by
  unfold toRule
  cases d.content <;> rfl

/-! ## Unknown labels -/

/-- The labels that name no category. -/
def unknownCategories (labels : List String) : List RuleError :=
  labels.flatMap fun label => if label ∈ Category.vocabulary then [] else [.unknownCategory label]

def KindDefinition.unknown : KindDefinition → List RuleError
  | label text => if text = anyLabel ∨ text ∈ LeafKind.vocabulary then [] else [.unknownKind text]
  | categories labels => unknownCategories labels

/-- **The labels that are in no vocabulary**, in the order in which they are looked for: those of the parameters, of the
categories and of the content. -/
def Definition.unknown (d : Definition) : List RuleError :=
  d.parameters.flatMap (·.kind.unknown) ++ unknownCategories d.categories ++ unknownCategories (d.content.getD [])

theorem Category.failsFirst_ofLabel (label : String) : FailsFirst (Category.ofLabel label)
    (if label ∈ Category.vocabulary then [] else [.unknownCategory label]) := by
  rw [Category.ofLabel_eq]
  exact failsFirst_elim find?_label_eq_none_iff _

theorem LeafKind.failsFirst_ofLabel (label : String) : FailsFirst (LeafKind.ofLabel label)
    (if label ∈ LeafKind.vocabulary then [] else [.unknownKind label]) := by
  rw [LeafKind.ofLabel_eq]
  exact failsFirst_elim find?_label_eq_none_iff _

theorem CategorySet.failsFirst_ofLabels (labels : List String) :
    FailsFirst (CategorySet.ofLabels labels) (unknownCategories labels) :=
  (FailsFirst.mapM Category.failsFirst_ofLabel labels).map CategorySet.ofList

theorem KindDefinition.failsFirst_toKind : ∀ kind : KindDefinition, FailsFirst kind.toKind kind.unknown
  | label text => by
    rw [toKind, unknown]
    by_cases hany : text = anyLabel
    · rw [if_pos (beq_iff_eq.2 hany), if_pos (Or.inl hany)]
      exact failsFirst_ok ParameterKind.any
    · simp only [hany, beq_iff_eq, if_false, false_or]
      exact (LeafKind.failsFirst_ofLabel text).map ParameterKind.leaf
  | categories labels => (CategorySet.failsFirst_ofLabels labels).map ParameterKind.node

theorem ParameterDefinition.failsFirst_toParameter (p : ParameterDefinition) :
    FailsFirst p.toParameter p.kind.unknown :=
  p.kind.failsFirst_toKind.bind_ok (Parameter.mk p.name · p.optional)

theorem Definition.failsFirst_toRule (d : Definition) : FailsFirst d.toRule d.unknown := by
  rw [toRule_eq, unknown, List.append_assoc]
  refine (FailsFirst.mapM ParameterDefinition.failsFirst_toParameter d.parameters).bind fun parameters => ?_
  refine (CategorySet.failsFirst_ofLabels d.categories).bind fun categories => ?_
  have hcontent : FailsFirst (contentSet d.content) (unknownCategories (d.content.getD [])) := by
    cases d.content with
    | none => exact failsFirst_ok none
    | some labels => exact (CategorySet.failsFirst_ofLabels labels).map some
  exact hcontent.bind_ok (Rule.mk d.name d.tag categories parameters · d.inline d.opening d.closing)

/-! ## Arranged definitions -/

def KindDefinition.arranged : KindDefinition → KindDefinition
  | label text => label text
  | categories labels => categories (Partitura.arranged labels)

def ParameterDefinition.arranged (p : ParameterDefinition) : ParameterDefinition := { p with kind := p.kind.arranged }

/-- **A definition with its categories arranged**: its own, those of its kinds and those of its content. -/
def Definition.arranged (d : Definition) : Definition :=
  { d with
    categories := Partitura.arranged d.categories
    parameters := d.parameters.map ParameterDefinition.arranged
    content := d.content.map Partitura.arranged }

theorem KindDefinition.ofKind_of_toKind {kind : KindDefinition} {k : ParameterKind} (h : kind.toKind = .ok k) :
    ofKind k = kind.arranged := by
  cases kind with
  | label text =>
    rw [toKind] at h
    split at h
    next hany =>
      cases h
      rw [beq_iff_eq.1 hany]
      rfl
    next =>
      obtain ⟨leaf, hleaf, rfl⟩ := map_eq_ok_iff.1 h
      rw [ofKind, LeafKind.label_of_ofLabel hleaf]
      rfl
  | categories labels =>
    obtain ⟨s, hs, rfl⟩ := map_eq_ok_iff.1 h
    rw [ofKind, CategorySet.labels_of_ofLabels hs]
    rfl

theorem ParameterDefinition.ofParameter_of_toParameter {d : ParameterDefinition} {p : Parameter}
    (h : d.toParameter = .ok p) : ofParameter p = d.arranged := by
  obtain ⟨kind, hkind, hp⟩ := bind_eq_ok_iff.1 h
  cases hp
  rw [ofParameter, KindDefinition.ofKind_of_toKind hkind]
  rfl

theorem Definition.ofRule_of_toRule {d : Definition} {r : Rule} (h : d.toRule = .ok r) : ofRule r = d.arranged := by
  rw [toRule_eq] at h
  obtain ⟨parameters, hparameters, h⟩ := bind_eq_ok_iff.1 h
  obtain ⟨categories, hcategories, h⟩ := bind_eq_ok_iff.1 h
  obtain ⟨content, hcontent, h⟩ := bind_eq_ok_iff.1 h
  cases h
  have hallowed : content.map CategorySet.labels = d.content.map Partitura.arranged := by
    cases hd : d.content with
    | none =>
      rw [hd] at hcontent
      cases hcontent
      rfl
    | some labels =>
      rw [hd] at hcontent
      obtain ⟨s, hs, rfl⟩ := map_eq_ok_iff.1 hcontent
      rw [Option.map_some, Option.map_some, CategorySet.labels_of_ofLabels hs]
  rw [ofRule, Definition.arranged, CategorySet.labels_of_ofLabels hcategories, hallowed,
    map_of_mapM_eq_ok hparameters fun p _ q => ParameterDefinition.ofParameter_of_toParameter]

/-- **Definitions and rules stand for each other.**  Every rule comes back from its words, whether or not it is
well-formed.  A definition fails with the first of its labels that is in no vocabulary, and is a rule if there is none;
written again, it has its categories arranged and is otherwise as it was, and so it stays. -/
theorem Definition.conversion_exact :
    (∀ r, (ofRule r).toRule = .ok r) ∧
    (∀ (d : Definition) e, d.toRule = .error e ↔ d.unknown.head? = some e) ∧
    (∀ d : Definition, (∃ r, d.toRule = .ok r) ↔ d.unknown = []) ∧
    (∀ (d : Definition) r, d.toRule = .ok r → ofRule r = d.arranged ∧ d.arranged.toRule = .ok r) ∧
    Category.vocabulary.Nodup ∧
    (∀ labels, (Partitura.arranged labels).Sublist Category.vocabulary ∧
      ∀ label, label ∈ Partitura.arranged labels ↔ label ∈ labels ∧ label ∈ Category.vocabulary) := by
  refine ⟨toRule_ofRule, failsFirst_toRule, fun d => d.failsFirst_toRule.exists_ok_iff, fun d r h => ?_, by decide,
    fun labels => ⟨sublist_arranged labels, fun label => mem_arranged⟩⟩
  have hwritten := ofRule_of_toRule h
  exact ⟨hwritten, hwritten ▸ toRule_ofRule r⟩

end Partitura
