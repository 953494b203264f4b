import Partitura.Proofs.Node.Changed
import Partitura.Proofs.Node.Faults
/-!
# Proofs.Node.Naming — a value by name for a slot that none has reached

The positional values go to the first open slots.  A slot that they do not reach may be named: it is no open slot then,
and those behind it move up, but not so far that a value reaches them (`value?_naming`).  So one more named value
changes that slot and nothing else, and building the node then is the same as setting it afterwards.
-/
namespace Partitura

/-- **The arguments with one more value by name.** -/
def Arguments.naming (args : Arguments) (slot : String) (value : Argument) : Arguments :=
  { args with named := args.named ++ [(slot, value)] }

theorem Arguments.mem_names_naming {args : Arguments} {slot other : String} {value : Argument} :
    other ∈ (args.naming slot value).named.map Prod.fst ↔ other ∈ args.named.map Prod.fst ∨ other = slot := by
  rw [naming, List.map_append, List.mem_append, List.map_singleton, List.mem_singleton]

/-- Without a member that the values do not reach, the others keep theirs. -/
theorem getElem?_idxOf_filter_ne {β : Type} {slot : String} (other : String) :
    ∀ {slots : List String} {values : List β}, slot ∈ slots → values.length ≤ slots.idxOf slot →
      values[(slots.filter (· ≠ slot)).idxOf other]? = values[slots.idxOf other]?
  | [], _, h, _ => nomatch h
  | s :: slots, [], _, _ => by rw [List.getElem?_nil, List.getElem?_nil]
  | s :: slots, v :: values, h, hlen => by
    by_cases hs : s = slot
    · subst hs
      simp at hlen
    · have hmem : slot ∈ slots := (List.mem_cons.1 h).resolve_left (Ne.symm hs)
      have hlen' : values.length ≤ slots.idxOf slot := by
        rw [List.idxOf_cons_ne _ hs, List.length_cons] at hlen
        exact Nat.le_of_succ_le_succ hlen
      rw [List.filter_cons_of_pos (by simpa using hs)]
      by_cases ho : s = other
      · rw [ho, List.idxOf_cons_self, List.idxOf_cons_self]
      · rw [List.idxOf_cons_ne _ ho, List.idxOf_cons_ne _ ho, List.getElem?_cons_succ, List.getElem?_cons_succ]
        exact getElem?_idxOf_filter_ne other hmem hlen'

namespace Binding

variable {r : Rule} {args : Arguments} {slot : String} {value : Argument}

/-- **A slot that no value has reached**, of those that values may be given to by position. -/
structure Unreached (r : Rule) (args : Arguments) (slot : String) : Prop where
  positional : slot ∈ positionalSlots r
  unbound : value? r args slot = none

namespace Unreached

variable (hs : r.slotNames.Nodup) (h : Unreached r args slot)
include h

theorem fresh : slot ∉ args.named.map Prod.fst :=
  (lookup_eq_none_iff_not_mem _ _).1 (Option.or_eq_none_iff.1 h.unbound).1

theorem mem_openSlots : slot ∈ openSlots r args.named := List.mem_filter.2 ⟨h.positional, decide_eq_true h.fresh⟩

/-- The values end before it. -/
theorem length_rest_le : (rest r args).length ≤ (openSlots r args.named).idxOf slot :=
  List.getElem?_eq_none_iff.1 (Option.or_eq_none_iff.1 h.unbound).2

include hs in
theorem ne_content (hc : r.isContainer = true) : slot ≠ Rule.contentSlot := fun heq =>
  content_not_mem_positionalSlots hs hc (heq ▸ h.positional)

omit h in
theorem openSlots_naming : openSlots r (args.naming slot value).named = (openSlots r args.named).filter (· ≠ slot) := by
  rw [openSlots, openSlots, List.filter_filter]
  congr 1
  funext s
  rw [Bool.eq_iff_iff, Bool.and_eq_true, decide_eq_true_eq, decide_eq_true_eq, decide_eq_true_eq,
    Arguments.mem_names_naming, not_or, and_comm]

include hs in
theorem takesContent_naming : takesContent r (args.naming slot value).named ↔ takesContent r args.named := by
  refine and_congr_right fun hc => not_congr ?_
  rw [Arguments.mem_names_naming, or_iff_left (h.ne_content hs hc).symm]

include hs in
theorem rest_naming : rest r (args.naming slot value) = rest r args := by
  unfold rest
  by_cases htake : takesContent r args.named
  · rw [if_pos htake, if_pos ((h.takesContent_naming hs).2 htake)]
    rfl
  · rw [if_neg htake, if_neg fun htake' => htake ((h.takesContent_naming hs).1 htake')]
    rfl

include hs in
theorem content_naming (hc : r.isContainer = true) : content r (args.naming slot value) = content r args := by
  unfold content
  by_cases htake : takesContent r args.named
  · rw [if_pos htake, if_pos ((h.takesContent_naming hs).2 htake)]
    rfl
  · have hne : Rule.contentSlot ≠ slot := (h.ne_content hs hc).symm
    rw [if_neg htake, if_neg fun htake' => htake ((h.takesContent_naming hs).1 htake'), Arguments.naming,
      lookup_concat, if_neg hne, Option.or_none]

include hs in
/-- **Naming an unreached slot** gives it its value, and every other slot keeps its own. -/
theorem value?_naming (other : String) :
    value? r (args.naming slot value) other = if other = slot then some value else value? r args other := by
  have hlookup : (args.naming slot value).named.lookup other =
      (args.named.lookup other).or (if other = slot then some value else none) := lookup_concat _ _ _ _
  rw [value?, hlookup, h.rest_naming hs, openSlots_naming,
    getElem?_idxOf_filter_ne other h.mem_openSlots h.length_rest_le]
  by_cases hother : other = slot
  · have hl : args.named.lookup other = none := hother ▸ (lookup_eq_none_iff_not_mem _ _).2 h.fresh
    rw [if_pos hother, if_pos hother, hl, Option.none_or, Option.some_or]
  · rw [if_neg hother, if_neg hother, Option.or_none]
    rfl

/-! ## No other fault -/

include hs in
theorem namedFault?_naming (hf : namedFault? r args.named = none) :
    namedFault? r (args.naming slot value).named = none := by
  rw [namedFault?_eq_none_iff] at hf ⊢
  obtain ⟨hnodup, hnamed⟩ := hf
  rw [Arguments.naming, List.map_append, List.map_singleton, ← List.concat_eq_append, List.nodup_concat,
    List.forall_mem_append, List.forall_mem_singleton]
  refine ⟨⟨h.fresh, hnodup⟩, hnamed, ?_, fun hc heq => absurd heq (h.ne_content hs hc)⟩
  rw [slotNames_eq]
  exact List.mem_append_left _ h.positional

include hs in
theorem surplusFault?_naming : surplusFault? r (args.naming slot value) = none := by
  have hnone := getElem?_idxOf_filter_ne slot h.mem_openSlots h.length_rest_le
  rw [List.getElem?_eq_none h.length_rest_le, List.getElem?_eq_none_iff] at hnone
  rw [surplusFault?_eq_none_iff, h.rest_naming hs, openSlots_naming]
  exact hnone.trans List.idxOf_le_length

include hs in
theorem missingFault?_naming (hf : missingFault? r args = none) :
    missingFault? r (args.naming slot value) = none := by
  rw [missingFault?_eq_none_iff] at hf ⊢
  intro p hp hrequired
  rw [h.value?_naming hs]
  split
  · exact Option.some_ne_none value
  · exact hf p hp hrequired

include hs in
theorem contentFault?_naming (hf : contentFault? r args = none) :
    contentFault? r (args.naming slot value) = none := by
  rw [contentFault?_eq_none_iff] at hf ⊢
  intro allowed hc
  rw [h.content_naming hs (Rule.isContainer_of_content hc)]
  exact hf allowed hc

include hs in
theorem children_naming : (node r (args.naming slot value)).children = (node r args).children := by
  unfold node
  cases hc : r.content with
  | none => rfl
  | some allowed => exact congrArg some (h.content_naming hs (Rule.isContainer_of_content hc))

end Unreached

/-! ## Naming a parameter -/

/-- A slot that no value has reached is not bound. -/
theorem Unreached.not_mem_names (h : Unreached r args slot) : slot ∉ (node r args).parameters.map Prod.fst := by
  intro hmem
  obtain ⟨entry, hentry, hname⟩ := List.mem_map.1 hmem
  obtain ⟨q, -, hq⟩ := List.mem_filterMap.1 hentry
  obtain ⟨v, hv, rfl⟩ := Option.map_eq_some_iff.1 hq
  dsimp only at hname
  rw [hname, h.unbound] at hv
  cases hv

/-- **An unbound parameter** of a node that was built is one that no value has reached. -/
theorem Unreached.of_not_mem_names {p : Parameter} (hkind : kindFault? r args = none) (hp : p ∈ r.parameters)
    (hunbound : p.name ∉ (node r args).parameters.map Prod.fst) : Unreached r args p.name := by
  refine ⟨List.mem_append_left _ (List.mem_map_of_mem hp), ?_⟩
  by_contra hreached
  obtain ⟨value, hvalue⟩ := Option.ne_none_iff_exists'.1 hreached
  obtain ⟨v, hv⟩ := Option.ne_none_iff_exists'.1 (kindFault?_eq_none_iff.1 hkind p hp value hvalue)
  refine hunbound (List.mem_map.2 ⟨(p.name, v), List.mem_filterMap.2 ⟨p, hp, ?_⟩, rfl⟩)
  rw [hvalue, Option.bind_some, hv]
  rfl

/-- A parameter stands once among those of its rule. -/
theorem exists_split {ps : List Parameter} {p : Parameter} (hnd : (ps.map (·.name)).Nodup) (hp : p ∈ ps) :
    ∃ before after, ps = before ++ p :: after ∧ ∀ q ∈ before ++ after, q.name ≠ p.name := by
  obtain ⟨before, after, rfl⟩ := List.append_of_mem hp
  refine ⟨before, after, rfl, fun q hq heq => ?_⟩
  rw [List.map_append, List.map_cons, List.nodup_middle, List.nodup_cons, ← List.map_append] at hnd
  exact hnd.1 (heq ▸ List.mem_map_of_mem hq)

variable (hs : r.slotNames.Nodup) {p : Parameter} (hp : p ∈ r.parameters) (h : Unreached r args p.name)
include hs hp h

theorem kindFault?_naming (hf : kindFault? r args = none) :
    kindFault? r (args.naming p.name value) = p.fault? r.name value := by
  obtain ⟨before, after, hsplit, hother⟩ := exists_split (Slots.parameters_nodup hs) hp
  have hrest : ∀ q ∈ before ++ after,
      ((value? r (args.naming p.name value) q.name).bind (q.fault? r.name)) = none := by
    intro q hq
    have hmem : q ∈ r.parameters := by
      rw [hsplit]
      exact (List.mem_append.1 hq).elim (List.mem_append_left _) fun hq =>
        List.mem_append_right _ (List.mem_cons_of_mem p hq)
    rw [h.value?_naming hs, if_neg (hother q hq)]
    exact List.findSome?_eq_none_iff.1 hf q hmem
  rw [List.forall_mem_append] at hrest
  rw [kindFault?, hsplit, List.findSome?_append, List.findSome?_cons, List.findSome?_eq_none_iff.2 hrest.1,
    List.findSome?_eq_none_iff.2 hrest.2, h.value?_naming hs, if_pos rfl, Option.bind_some, Option.none_or]
  cases p.fault? r.name value <;> rfl

theorem positionValue?_naming : positionValue? r (args.naming p.name value) = positionValue? r args := by
  unfold positionValue?
  by_cases ha : r.isAttachment = true
  · have hne : Rule.positionSlot ≠ p.name := fun heq =>
      Slots.isAttachment_of_slotNames hs ha (heq ▸ List.mem_map_of_mem hp)
    rw [if_pos ha, if_pos ha, h.value?_naming hs, if_neg hne]
  · rw [if_neg ha, if_neg ha]

/-- **With a value by name for a parameter** that none has reached, nothing is at fault but the value. -/
theorem fault?_naming_parameter (hf : fault? r args = none) :
    fault? r (args.naming p.name value) = p.fault? r.name value := by
  obtain ⟨hnamed, -, hmissing, hkind, hcontent, hposition⟩ := fault?_eq_none_iff.1 hf
  have hposition' : positionFault? r (args.naming p.name value) = none := by
    rw [positionFault?, positionValue?_naming hs hp h]
    exact hposition
  rw [fault?, h.namedFault?_naming hs hnamed, h.surplusFault?_naming hs, h.missingFault?_naming hs hmissing,
    kindFault?_naming hs hp h hkind, h.contentFault?_naming hs hcontent, hposition']
  cases p.fault? r.name value <;> rfl

/-- The value stands where its parameter is declared. -/
theorem node_naming_parameter {v : Value} (hf : fault? r args = none) (hv : p.take? value = some v) :
    node r (args.naming p.name value) = (node r args).withValue p.name v := by
  obtain ⟨before, after, hsplit, hother⟩ := exists_split (Slots.parameters_nodup hs) hp
  have hsame : ∀ q ∈ before ++ after, bound? r (args.naming p.name value) q = bound? r args q := by
    intro q hq
    rw [bound?, h.value?_naming hs, if_neg (hother q hq)]
    rfl
  rw [List.forall_mem_append] at hsame
  have hnew : bound? r (args.naming p.name value) p = some (p.name, v) := by
    rw [bound?, h.value?_naming hs, if_pos rfl, Option.bind_some, hv]
    rfl
  have hnone : bound? r args p = none := by
    rw [bound?, h.unbound]
    rfl
  have hperm : ((node r args).parameters ++ [(p.name, v)]).Perm (node r (args.naming p.name value)).parameters := by
    rw [node_parameters, node_parameters, hsplit, List.filterMap_append, List.filterMap_append,
      List.filterMap_cons_none hnone, List.filterMap_cons_some hnew, List.filterMap_congr hsame.1,
      List.filterMap_congr hsame.2]
    exact (List.perm_append_singleton _ _).trans List.perm_middle.symm
  have hfault : fault? r (args.naming p.name value) = none := by
    rw [fault?_naming_parameter hs hp h hf, Parameter.fault?, hv]
    rfl
  have hfits := fits_of_ofArguments (Slots.parameters_nodup hs) ((ofArguments_eq_ok_iff hs).2 ⟨hfault, rfl⟩)
  have hposition : (node r (args.naming p.name value)).position = (node r args).position := by
    rw [node, positionValue?_naming hs hp h]
    rfl
  refine Node.eq_of_fields rfl hposition ?_ (h.children_naming hs)
  unfold Node.withValue
  dsimp only
  rw [if_neg h.not_mem_names]
  exact (Node.inOrder_eq_of_perm (Slots.parameters_nodup hs) hfits.ordered hperm).symm

omit h in
theorem parameter?_name : r.parameter? p.name = some p := by
  obtain ⟨before, after, hsplit, hother⟩ := exists_split (Slots.parameters_nodup hs) hp
  rw [List.forall_mem_append] at hother
  have hbefore : before.find? (·.name == p.name) = none := by
    rw [List.find?_eq_none]
    intro q hq
    rw [beq_iff_eq]
    exact hother.1 q hq
  rw [Rule.parameter?, hsplit, List.find?_append, hbefore, Option.none_or, List.find?_cons, beq_self_eq_true]

omit h in
/-- **Setting a parameter that is unbound** is building the node with a value by name for it. -/
theorem setParameter_node (hf : fault? r args = none)
    (hunbound : p.name ∉ (node r args).parameters.map Prod.fst) (value : Argument) :
    (node r args).setParameter p.name value = Node.ofArguments r (args.naming p.name value) := by
  have hkind := (fault?_eq_none_iff.1 hf).2.2.2.1
  have h : Unreached r args p.name := .of_not_mem_names hkind hp hunbound
  have hrule : (node r args).rule = r := rfl
  rw [Node.setParameter_eq, hrule, parameter?_name hs hp, ofArguments_eq_built _ _ hs, built,
    fault?_naming_parameter hs hp h hf, Parameter.fault?]
  dsimp only
  cases hv : p.take? value with
  | none => rfl
  | some v => exact congrArg Except.ok (node_naming_parameter hs hp h hf hv).symm

end Binding

/-! ## Naming the position -/

namespace Binding

variable {r : Rule} {args : Arguments} (hs : r.slotNames.Nodup) (ha : r.isAttachment = true)
  (hnone : positionValue? r args = none)
include hs ha

include hnone in
omit hs in
theorem Unreached.position : Unreached r args Rule.positionSlot := by
  refine ⟨List.mem_append_right _ ?_, ?_⟩
  · rw [if_pos ha]
    exact List.mem_singleton_self _
  · rwa [positionValue?, if_pos ha] at hnone

theorem name_ne_position {p : Parameter} (hp : p ∈ r.parameters) : p.name ≠ Rule.positionSlot := fun heq =>
  Slots.isAttachment_of_slotNames hs ha (heq ▸ List.mem_map_of_mem hp)

include hnone

theorem positionValue?_naming_position (value : Argument) :
    positionValue? r (args.naming Rule.positionSlot value) = some value := by
  rw [positionValue?, if_pos ha, (Unreached.position ha hnone).value?_naming hs, if_pos rfl]

/-- **Setting the position of an attachment** to which none was given is building the node with it by name. -/
theorem setPosition_node (hf : fault? r args = none) (q : Position) :
    (node r args).setPosition q = .ok { node r args with position := q } ∧
      Node.ofArguments r (args.naming Rule.positionSlot (.position q)) = .ok { node r args with position := q } := by
  have h : Unreached r args Rule.positionSlot := .position ha hnone
  have hother : ∀ p ∈ r.parameters,
      value? r (args.naming Rule.positionSlot (.position q)) p.name = value? r args p.name := by
    intro p hp
    rw [h.value?_naming hs, if_neg (name_ne_position hs ha hp)]
  obtain ⟨hnamed, -, hmissing, hkind, hcontent, -⟩ := fault?_eq_none_iff.1 hf
  have hkind' : kindFault? r (args.naming Rule.positionSlot (.position q)) = none := by
    rw [kindFault?_eq_none_iff] at hkind ⊢
    intro p hp
    rw [hother p hp]
    exact hkind p hp
  have hposition : positionFault? r (args.naming Rule.positionSlot (.position q)) = none := by
    rw [positionFault?, positionValue?_naming_position hs ha hnone]
    rfl
  have hparameters : (node r (args.naming Rule.positionSlot (.position q))).parameters = (node r args).parameters := by
    rw [node_parameters, node_parameters]
    refine List.filterMap_congr fun p hp => ?_
    rw [bound?, hother p hp]
    rfl
  have hposition' : (node r (args.naming Rule.positionSlot (.position q))).position = q := by
    rw [node, positionValue?_naming_position hs ha hnone]
    rfl
  have hfault : fault? r (args.naming Rule.positionSlot (.position q)) = none :=
    fault?_eq_none_iff.2 ⟨h.namedFault?_naming hs hnamed, h.surplusFault?_naming hs, h.missingFault?_naming hs hmissing,
      hkind', h.contentFault?_naming hs hcontent, hposition⟩
  exact ⟨if_pos ha, (ofArguments_eq_ok_iff hs).2 ⟨hfault,
    Node.eq_of_fields rfl hposition'.symm hparameters.symm (h.children_naming hs).symm⟩⟩

end Binding
end Partitura
