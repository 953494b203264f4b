import Mathlib.Data.Fintype.EquivFin
import Partitura.Proofs.Node.Shown
/-!
# Proofs.Node.Raised — the errors that building a node can raise

Building raises no errors but those of four kinds, one of them only where a parameter is required and one only where
there is content (`canRaise_of_fault?`).  All of these are raised: by one value too many, by leaving out a parameter, by
a name that no slot has, and by a child without categories among values that every required parameter takes.
-/
namespace Partitura

/-- **The errors that building a node of a rule can raise.** -/
inductive Rule.CanRaise (r : Rule) : ScoreError → Prop
  | tooMany (value : String) : CanRaise r (.tooManyArguments r.name value)
  | missing {p : Parameter} (hp : p ∈ r.parameters) (hrequired : p.optional = false) :
    CanRaise r (.missingArgument r.name p.name)
  | argument (fault : ArgumentFault) : CanRaise r (.invalidArgument fault)
  | content {allowed : CategorySet} (h : r.content = some allowed) (actual : CategorySet) :
    CanRaise r (.invalidContent r.name allowed actual)

namespace Binding

variable {r : Rule} {args : Arguments}

theorem canRaise_of_fault? {e : ScoreError} (h : fault? r args = some e) : r.CanRaise e := by
  obtain ⟨found, hmem, rfl⟩ := List.exists_of_findSome?_eq_some h
  simp only [List.mem_cons, List.not_mem_nil, or_false] at hmem
  rcases hmem with hnamed | hsurplus | hmissing | hkind | hcontent | hposition
  · obtain ⟨⟨entry, i⟩, -, hentry⟩ := List.exists_of_findSome?_eq_some hnamed.symm
    obtain ⟨fault, -, rfl⟩ := Option.map_eq_some_iff.1 hentry
    exact .argument fault
  · obtain ⟨value, -, rfl⟩ := Option.map_eq_some_iff.1 hsurplus.symm
    exact .tooMany value.describe
  · rw [missingFault?_eq] at hmissing
    obtain ⟨p, hfind, rfl⟩ := Option.map_eq_some_iff.1 hmissing.symm
    have hrequired := List.find?_some hfind
    rw [Bool.and_eq_true, Bool.not_eq_true'] at hrequired
    exact .missing (List.mem_of_find?_eq_some hfind) hrequired.1
  · obtain ⟨p, -, hp⟩ := List.exists_of_findSome?_eq_some hkind.symm
    obtain ⟨value, -, hfault⟩ := Option.bind_eq_some_iff.1 hp
    unfold Parameter.fault? at hfault
    split at hfault
    · cases hfault
      exact .argument _
    · cases hfault
  · obtain ⟨allowed, hallowed, hchild⟩ := Option.bind_eq_some_iff.1 hcontent.symm
    obtain ⟨child, -, hfault⟩ := Option.bind_eq_some_iff.1 hchild
    cases hfault
    exact .content hallowed child.categories
  · obtain ⟨value, -, hfault⟩ := Option.bind_eq_some_iff.1 hposition.symm
    split at hfault
    · cases hfault
      exact .argument _
    · cases hfault

end Binding

/-! ## Values that are accepted -/

/-- A value of each kind. -/
def LeafKind.sample : LeafKind → Leaf
  | boolean => .boolean true
  | unsignedInt => .unsignedInt 0
  | signedInt => .signedInt 0
  | unsignedFloat => .unsignedFloat .zero
  | signedFloat => .signedFloat .zero
  | string => .string ""
  | symbol => .symbol ⟨"a", by decide⟩
  | direction => .direction .up
  | axis => .axis .x
  | color => .color ⟨"red", .normal, by decide⟩
  | pair => .pair (.boolean true) (.boolean true)
  | list => .list []
  | associationList => .associationList []
  | procedure => .procedure ⟨"a", by decide, by decide, by decide⟩

theorem LeafKind.kind_sample (k : LeafKind) : k.sample.kind = k := by
  cases k <;> rfl

/-- An element with these categories, which may be none. -/
def Element.sample (cs : CategorySet) : Element := .node ⟨.command "sample" "\\sample" cs, .unset, [], none⟩

theorem Element.made_sample (cs : CategorySet) : (sample cs).Made := by
  have hbuilt : Node.ofArguments (.command "sample" "\\sample" cs) .none =
      .ok ⟨.command "sample" "\\sample" cs, .unset, [], none⟩ := rfl
  exact .node (by simp [Rule.command]) (by simp [Arguments.elements, Arguments.none]) hbuilt

/-- A value that is accepted, by every kind but that of no categories. -/
def ParameterKind.sample : ParameterKind → Value
  | any => .leaf (.boolean true)
  | leaf kind => .leaf kind.sample
  | node cs => .element (.sample cs)

theorem ParameterKind.accepts_sample {kind : ParameterKind} (h : kind ≠ .node .empty) :
    kind.accepts kind.sample = true := by
  cases kind with
  | any => rfl
  | leaf kind => simp [sample, accepts, LeafKind.accepts, LeafKind.kind_sample]
  | node cs =>
    have hbits : cs.bits ≠ 0 := fun hzero => h (by rw [show cs = .empty from congrArg CategorySet.mk hzero])
    have hsame : cs.bits &&& cs.bits = cs.bits := BitVec.and_self
    simpa [sample, accepts, Element.sample, Element.categories, CategorySet.intersects, Rule.command, hsame] using hbits

theorem ParameterKind.made_sample (kind : ParameterKind) : ∀ e ∈ kind.sample.argument.elements, e.Made := by
  cases kind with
  | any => exact nofun
  | leaf kind => exact nofun
  | node cs =>
    intro e he
    rw [List.mem_singleton.1 he]
    exact Element.made_sample cs

theorem Parameter.take?_sample {p : Parameter} (h : p.kind ≠ .node .empty) :
    p.take? p.kind.sample.argument ≠ none := by
  rw [take?_argument (ParameterKind.accepts_sample h)]
  simp

/-- Values by name for some of the parameters. -/
def Rule.samples (r : Rule) (given : Parameter → Bool) : List (String × Argument) :=
  (r.parameters.filter given).map fun p => (p.name, p.kind.sample.argument)

namespace Rule

variable {r : Rule} {given : Parameter → Bool}

theorem mem_samples {entry : String × Argument} : entry ∈ r.samples given ↔
    ∃ p ∈ r.parameters, given p = true ∧ (p.name, p.kind.sample.argument) = entry := by
  simp [samples, and_assoc]

theorem names_samples (r : Rule) (given : Parameter → Bool) :
    ((r.samples given).map Prod.fst).Sublist (r.parameters.map (·.name)) := by
  have hnames : (r.samples given).map Prod.fst = (r.parameters.filter given).map (·.name) := by
    rw [samples, List.map_map]
    rfl
  rw [hnames]
  exact List.filter_sublist.map _

theorem made_samples (r : Rule) (given : Parameter → Bool) :
    ∀ entry ∈ r.samples given, ∀ e ∈ entry.2.elements, e.Made := by
  intro entry hentry
  obtain ⟨p, -, -, rfl⟩ := mem_samples.1 hentry
  exact p.kind.made_sample

end Rule

namespace Binding

variable {r : Rule} (hs : r.slotNames.Nodup)
include hs

theorem namedFault?_samples (given : Parameter → Bool) : namedFault? r (r.samples given) = none := by
  rw [namedFault?_eq_none_iff]
  refine ⟨(Slots.parameters_nodup hs).sublist (r.names_samples given), fun entry hentry => ?_⟩
  obtain ⟨p, hp, -, rfl⟩ := Rule.mem_samples.1 hentry
  have hname : p.name ∈ r.parameters.map (·.name) := List.mem_map_of_mem hp
  refine ⟨Slots.mem_slotNames.2 (.inl hname), fun hc heq => ?_⟩
  exact absurd (heq ▸ hname) (Slots.isContainer_of_slotNames hs hc)

theorem lookup_samples (given : Parameter → Bool) {p : Parameter} (hp : p ∈ r.parameters) :
    (r.samples given).lookup p.name = if given p then some p.kind.sample.argument else none := by
  have hdistinct := Slots.parameters_nodup hs
  split
  · rename_i hgiven
    rw [lookup_eq_some_iff_mem (hdistinct.sublist (r.names_samples given))]
    exact Rule.mem_samples.2 ⟨p, hp, hgiven, rfl⟩
  · rename_i hgiven
    rw [lookup_eq_none_iff_not_mem]
    intro hmem
    obtain ⟨entry, hentry, hname⟩ := List.mem_map.1 hmem
    obtain ⟨q, hq, hqgiven, rfl⟩ := Rule.mem_samples.1 hentry
    obtain rfl := List.inj_on_of_nodup_map hdistinct hq hp hname
    exact hgiven hqgiven

/-- **One value too many** finds no slot. -/
theorem exists_tooMany : ∃ args value, (∀ e ∈ args.elements, e.Made) ∧
    Node.ofArguments r args = .error (.tooManyArguments r.name value) := by
  let value : Argument := .leaf (.boolean true)
  let args : Arguments := .ofList (List.replicate ((positionalSlots r).length + 1) value)
  have hopen : openSlots r args.named = positionalSlots r := by
    simp [openSlots, args, Arguments.ofList]
  -- A truth value is no sequence of elements, so none is taken out as the content.
  have hrest : rest r args = args.positional := by
    unfold rest
    split
    · refine List.eraseP_of_forall_not fun v hv => ?_
      rw [List.eq_of_mem_replicate hv]
      exact Bool.false_ne_true
    · rfl
  have hnamed : namedFault? r args.named = none :=
    (namedFault?_eq_none_iff []).2 ⟨List.nodup_nil, fun _ he => absurd he List.not_mem_nil⟩
  have hsurplus : surplusFault? r args = some (.tooManyArguments r.name value.describe) := by
    rw [surplusFault?, hopen, hrest]
    simp [args, Arguments.ofList]
  refine ⟨args, value.describe, fun e he => ?_, (ofArguments_eq_error_iff hs).2 ?_⟩
  · simp [args, value, Arguments.ofList, Arguments.elements, Argument.elements] at he
  · simp [fault?, hnamed, hsurplus]

/-- **A required parameter that is left out** is missed, if all others are given. -/
theorem exists_missing {p : Parameter} (hp : p ∈ r.parameters) (hrequired : p.optional = false) :
    ∃ args, (∀ e ∈ args.elements, e.Made) ∧ Node.ofArguments r args = .error (.missingArgument r.name p.name) := by
  let given : Parameter → Bool := fun q => !q.optional && q.name != p.name
  have hvalue : ∀ q ∈ r.parameters, value? r ⟨[], r.samples given⟩ q.name =
      if given q then some q.kind.sample.argument else none := fun q hq => by
    rw [value?_named, lookup_samples hs given hq]
  -- Every other required parameter is given, so it is this one that is missed.
  have hfound : missingFault? r ⟨[], r.samples given⟩ = some (.missingArgument r.name p.name) := by
    cases hmissing : missingFault? r ⟨[], r.samples given⟩ with
    | none =>
      have hgiven := missingFault?_eq_none_iff.1 hmissing p hp hrequired
      simp [hvalue p hp, given] at hgiven
    | some e =>
      rw [missingFault?_eq] at hmissing
      obtain ⟨q, hfind, rfl⟩ := Option.map_eq_some_iff.1 hmissing
      have hq := List.find?_some hfind
      rw [Bool.and_eq_true, Bool.not_eq_true', hvalue q (List.mem_of_find?_eq_some hfind)] at hq
      have hname : q.name = p.name := by simpa [given, hq.1] using hq.2
      rw [hname]
  refine ⟨⟨[], r.samples given⟩, fun e he => ?_, (ofArguments_eq_error_iff hs).2 ?_⟩
  · obtain ⟨entry, hentry, hmem⟩ := List.mem_flatMap.1 he
    exact r.made_samples given entry hentry e hmem
  · have hnamed : namedFault? r (r.samples given) = none := namedFault?_samples hs given
    simp [fault?, hnamed, surplusFault?_named, hfound]

/-- **A name that no slot has** is an invalid argument. -/
theorem exists_invalidArgument : ∃ args fault, (∀ e ∈ args.elements, e.Made) ∧
    Node.ofArguments r args = .error (.invalidArgument fault) := by
  obtain ⟨name, hname⟩ := Infinite.exists_notMem_finset r.slotNames.toFinset
  rw [List.mem_toFinset] at hname
  let args : Arguments := ⟨[], [(name, .leaf (.boolean true))]⟩
  have hnamed : namedFault? r args.named = some (.invalidArgument (.noSuchSlot r.name name)) := by
    simp [namedFault?, entryFault?, args, hname]
  refine ⟨args, .noSuchSlot r.name name, fun e he => ?_, (ofArguments_eq_error_iff hs).2 ?_⟩
  · simp [args, Arguments.elements, Argument.elements] at he
  · simp [fault?, hnamed]

/-- **A child without categories** is invalid content, if every required parameter takes its value. -/
theorem exists_invalidContent {allowed : CategorySet} (hallowed : r.content = some allowed)
    (htakes : ∀ p ∈ r.parameters, p.optional = false → p.kind ≠ .node .empty) :
    ∃ args, (∀ e ∈ args.elements, e.Made) ∧
      Node.ofArguments r args = .error (.invalidContent r.name allowed .empty) := by
  have hc : r.isContainer = true := Rule.isContainer_of_content hallowed
  let samples := r.samples fun p => !p.optional
  let named := (Rule.contentSlot, Argument.sequence [.sample .empty]) :: samples
  have hparameter : ∀ p ∈ r.parameters, p.name ≠ Rule.contentSlot := fun p hp heq =>
    Slots.isContainer_of_slotNames hs hc (List.mem_map.2 ⟨p, hp, heq⟩)
  have hnew : Rule.contentSlot ∉ samples.map Prod.fst := fun hmem =>
    Slots.isContainer_of_slotNames hs hc ((r.names_samples _).subset hmem)
  obtain ⟨hdistinct, hslots⟩ := (namedFault?_eq_none_iff samples).1 (namedFault?_samples hs _)
  have hvalue : ∀ p ∈ r.parameters, value? r ⟨[], named⟩ p.name =
      if !p.optional then some p.kind.sample.argument else none := fun p hp => by
    rw [value?_named, List.lookup_cons, beq_false_of_ne (hparameter p hp)]
    exact lookup_samples hs _ hp
  have hnamed : namedFault? r named = none := by
    rw [namedFault?_eq_none_iff, List.map_cons, List.nodup_cons, List.forall_mem_cons]
    refine ⟨⟨hnew, hdistinct⟩, ⟨Slots.mem_slotNames.2 (.inr (.inr ⟨rfl, hc⟩)), fun _ _ => nofun⟩, hslots⟩
  have hmissing : missingFault? r ⟨[], named⟩ = none := by
    refine missingFault?_eq_none_iff.2 fun p hp hrequired hnone => ?_
    simp [hvalue p hp, hrequired] at hnone
  have hkind : kindFault? r ⟨[], named⟩ = none := by
    refine kindFault?_eq_none_iff.2 fun p hp value hheld => ?_
    rw [hvalue p hp, Option.ite_none_right_eq_some, Bool.not_eq_true'] at hheld
    obtain ⟨hrequired, hsample⟩ := hheld
    cases hsample
    exact Parameter.take?_sample (htakes p hp hrequired)
  have hcontent : contentFault? r ⟨[], named⟩ = some (.invalidContent r.name allowed .empty) := by
    have hgiven : content r ⟨[], named⟩ = [.sample .empty] := by
      have hname : Rule.contentSlot ∈ named.map Prod.fst := List.mem_cons_self
      rw [content, if_neg fun htake => htake.2 hname]
      simp [named, Argument.items?]
    simp [contentFault?, hallowed, hgiven, Element.sample, Element.categories, CategorySet.intersects, Rule.command,
      CategorySet.empty]
  refine ⟨⟨[], named⟩, fun e he => ?_, (ofArguments_eq_error_iff hs).2 ?_⟩
  · obtain ⟨entry, hentry, hmem⟩ := List.mem_flatMap.1 he
    rcases List.mem_cons.1 hentry with rfl | hentry
    · rw [List.mem_singleton.1 hmem]
      exact Element.made_sample .empty
    · exact r.made_samples _ entry hentry e hmem
  · simp [fault?, hnamed, surplusFault?_named, hmissing, hkind, hcontent]

end Binding
end Partitura
