import Mathlib.Data.List.Find
import Partitura.Proofs.Node.Slots
/-!
# Proofs.Node.Resolution — building a node binds by counting

Every check on what the slots hold answers with the first error of its kind, so building a node answers exactly as
counting does (`ofArguments_answers`).
-/
namespace Partitura

open Binding (namedFault? openSlots)

theorem Slots.firstMissing_map (held : Parameter → Option Argument) : ∀ ps : List Parameter,
    Slots.firstMissing ps (ps.map held) = ps.find? fun p => !p.optional && (held p).isNone
  | [] => rfl
  | p :: ps => by
    rw [List.map_cons, Slots.firstMissing, List.find?_cons, Slots.firstMissing_map held ps]
    cases !p.optional && (held p).isNone <;> rfl

theorem checkParameters_map (element : String) (held : Parameter → Option Argument) : ∀ ps : List Parameter,
    checkParameters element ps (ps.map held) =
      match ps.findSome? (fun p => (held p).bind (p.fault? element)) with
      | some e => .error e
      | none => .ok (ps.filterMap fun p => ((held p).bind p.take?).map (p.name, ·))
  | [] => rfl
  | p :: ps => by
    have ih := checkParameters_map element held ps
    rw [List.map_cons, List.findSome?_cons]
    cases hv : held p with
    | none => simp [checkParameters, hv, ih]
    | some value =>
      cases ht : p.take? value with
      | none => simp [checkParameters, Parameter.check_eq, Parameter.fault?, ht]
      | some v =>
        have hf : p.fault? element value = none := by simp [Parameter.fault?, ht]
        rw [checkParameters, Parameter.check_eq, ht, ih, Option.bind_some, hf]
        cases ps.findSome? fun p => (held p).bind (p.fault? element) with
        | some e => rfl
        | none => simp [hv, ht]

theorem checkChildren_eq {r : Rule} {allowed : CategorySet} (hc : r.content = some allowed) :
    ∀ children : List Element, r.checkChildren children =
      match children.find? (fun child => !allowed.intersects child.categories) with
      | some child => .error (.invalidContent r.name allowed child.categories)
      | none => .ok ()
  | [] => rfl
  | child :: children => by
    rw [Rule.checkChildren, List.find?_cons, checkChildren_eq hc children]
    cases hi : allowed.intersects child.categories <;> simp [Rule.checkChild, hc, hi]

/-- A parameter has a value if it is named or its number is reached. -/
theorem value?_isNone (r : Rule) (args : Arguments) {p : Parameter} (hp : p ∈ r.parameters) :
    (Binding.value? r args p.name).isNone = decide (p.name ∉ args.named.map Prod.fst ∧
      p.name ∉ (openSlots r args.named).take (Binding.rest r args).length) := by
  unfold Binding.value?
  by_cases hin : p.name ∈ args.named.map Prod.fst
  · obtain ⟨v, hl⟩ := exists_lookup_of_mem hin
    simp [hl, hin]
  · have hl := (lookup_eq_none_iff_not_mem _ _).2 hin
    have hmem : p.name ∈ openSlots r args.named :=
      List.mem_filter.2 ⟨List.mem_append_left _ (List.mem_map_of_mem hp), by simpa using hin⟩
    have hreached := List.mem_take_iff_idxOf_lt (n := (Binding.rest r args).length) hmem
    rw [hl, Option.none_or]
    rw [Bool.eq_iff_iff]
    simp [hin, hreached]

theorem missingFault?_eq (r : Rule) (args : Arguments) : Binding.missingFault? r args =
    (r.parameters.find? fun p => !p.optional && (Binding.value? r args p.name).isNone).map fun p =>
      .missingArgument r.name p.name := by
  unfold Binding.missingFault?
  dsimp only
  congr 1
  apply List.find?_congr
  intro p hp
  rw [value?_isNone r args hp]

theorem resolveContent_eq (r : Rule) (args : Arguments) : r.resolveContent (Slots.heldContent r args) =
    match Binding.contentFault? r args with
    | some e => .error e
    | none => .ok (r.content.map fun _ => Binding.content r args) := by
  unfold Rule.resolveContent Binding.contentFault?
  cases hc : r.content with
  | none => rfl
  | some allowed =>
    dsimp only
    rw [Slots.heldContent_getD args (Rule.isContainer_of_content hc), checkChildren_eq hc]
    simp only [Option.bind_eq_bind, Option.bind_some]
    cases (Binding.content r args).find? fun child => !allowed.intersects child.categories with
    | some child => rfl
    | none => rfl

theorem checkPosition_eq (r : Rule) (args : Arguments) : r.checkPosition (Binding.positionValue? r args) =
    match Binding.positionFault? r args with
    | some e => .error e
    | none => .ok (((Binding.positionValue? r args).bind Argument.position?).getD .unset) := by
  unfold Rule.checkPosition Binding.positionFault?
  cases Binding.positionValue? r args with
  | none => rfl
  | some value => cases hp : value.position? <;> simp [hp]

/-- **Building a node binds by counting**: for a rule whose slots have names of their own, every list of arguments
gives the node that counting gives, or the error that it gives. -/
theorem ofArguments_eq_built (r : Rule) (args : Arguments) (h : r.slotNames.Nodup) :
    Node.ofArguments r args = Binding.built r args := by
  unfold Node.ofArguments Binding.built Binding.fault?
  rw [Slots.bindAll_vacant h]
  simp only [List.findSome?_cons, id]
  cases namedFault? r args.named with
  | some e => rfl
  | none =>
    simp only [ok_bind, Slots.bindPositional_ofNamed h]
    have hsurplus : Binding.surplusFault? r args =
        ((Binding.rest r args).drop (openSlots r args.named).length).head?.map
          fun value => .tooManyArguments r.name value.describe := by
      rw [List.head?_drop]; rfl
    rw [hsurplus]
    cases (Binding.rest r args).drop (openSlots r args.named).length with
    | cons value values => rfl
    | nil =>
      dsimp only [List.head?_nil, Option.map_none]
      rw [Slots.firstMissing_map, missingFault?_eq]
      cases r.parameters.find? fun p => !p.optional && (Binding.value? r args p.name).isNone with
      | some p => rfl
      | none =>
        dsimp only [Option.map_none]
        rw [checkParameters_map]
        rw [show r.parameters.findSome? (fun p => (Binding.value? r args p.name).bind (p.fault? r.name)) =
          Binding.kindFault? r args from rfl]
        cases Binding.kindFault? r args with
        | some e => rfl
        | none =>
          dsimp only
          rw [ok_bind, resolveContent_eq]
          cases Binding.contentFault? r args with
          | some e => rfl
          | none =>
            dsimp only
            rw [ok_bind, checkPosition_eq]
            cases Binding.positionFault? r args with
            | some e => rfl
            | none => rfl

/-- **Building a node answers as counting does**, nodes and errors alike: for a rule whose slots have names of their
own, the error is the first of the faults, and without a fault the node is the one whose slots hold their values. -/
theorem ofArguments_answers (r : Rule) (args : Arguments) (h : r.slotNames.Nodup) :
    (∀ e, Node.ofArguments r args = .error e ↔ Binding.fault? r args = some e) ∧
    (∀ n, Node.ofArguments r args = .ok n ↔ Binding.fault? r args = none ∧ n = Binding.node r args) := by
  rw [ofArguments_eq_built r args h, Binding.built]
  cases Binding.fault? r args with
  | some e => simp
  | none => simp [eq_comm]

namespace Binding

/-- A container with a required parameter on either side of an optional one. -/
def sampleRule : Rule :=
  { Rule.container "boxed" "\\boxed" (.ofList [.markup, .attachment]) (.ofList [.markup, .comment]) with
    parameters := [⟨"size", .leaf .signedInt, false⟩, ⟨"label", .any, true⟩, ⟨"side", .leaf .axis, false⟩] }

/-- Its content between positional values, and its last parameter by name. -/
def sampleArguments : Arguments where
  positional := [.leaf (.signedInt 3), .sequence [.text "dolce"], .element (.comment "x"), .leaf (.string "up")]
  named := [("side", .leaf (.axis .x))]

end Binding

theorem ofArguments_answers_sample :
    Binding.sampleRule.slotNames.Nodup ∧
    Node.ofArguments Binding.sampleRule Binding.sampleArguments = .ok {
      rule := Binding.sampleRule
      position := .up
      parameters := [("size", .leaf (.signedInt 3)), ("label", .element (.comment "x")), ("side", .leaf (.axis .x))]
      children := some [.text "dolce"] } ∧
    Node.ofArguments Binding.sampleRule ⟨.sequence [] :: Binding.sampleArguments.positional, []⟩ =
      .error (.invalidArgument (.wrongKind "label" "boxed" .any "a sequence of 1 elements")) := by
  have h : Binding.sampleRule.slotNames.Nodup := by decide
  refine ⟨h, ((ofArguments_answers _ _ h).2 _).2 ⟨?_, ?_⟩, ((ofArguments_answers _ _ h).1 _).2 ?_⟩
  · rfl
  · rfl
  · rfl

end Partitura
