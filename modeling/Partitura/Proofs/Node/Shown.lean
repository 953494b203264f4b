import Partitura.Proofs.Node.Faults
import Partitura.Proofs.Node.Reachable
import Partitura.Proofs.Rule.Checked
/-!
# Proofs.Node.Shown — a node is built again from what it shows

A node shows its bound parameters, its position and its children.  Given by their names, in any order, these are bound
without a fault if the node fits its rule, and every slot gets back what it held (`Node.ofArguments_shown`).  On every
run nodes fit their rules, whatever elements were handed in.
-/
namespace Partitura

/-- **What a name stands for** does not depend on the order, if no name is repeated. -/
theorem lookup_eq_some_iff_mem {α : Type} {name : String} {value : α} : ∀ {entries : List (String × α)},
    (entries.map Prod.fst).Nodup → (entries.lookup name = some value ↔ (name, value) ∈ entries)
  | [], _ => by simp
  | (key, held) :: entries, h => by
    rw [List.map_cons, List.nodup_cons] at h
    rw [List.lookup_cons, List.mem_cons]
    by_cases hkey : name = key
    · subst hkey
      have hno : (name, value) ∉ entries := fun hmem => h.1 (List.mem_map.2 ⟨_, hmem, rfl⟩)
      rw [beq_self_eq_true, or_iff_left hno]
      exact ⟨fun heq => by rw [Option.some.inj heq], fun heq => by rw [(Prod.mk.inj heq).2]⟩
    · have hne : (name, value) ≠ (key, held) := fun heq => hkey (Prod.mk.inj heq).1
      rw [beq_eq_false_iff_ne.2 hkey, or_iff_right hne]
      exact lookup_eq_some_iff_mem h.2

/-- **Entries in the order of their names** are found again name by name. -/
theorem filterMap_lookup {α : Type} : ∀ {names : List String} {entries : List (String × α)}, names.Nodup →
    (entries.map Prod.fst).Sublist names → names.filterMap (fun name => (entries.lookup name).map (name, ·)) = entries
  | [], entries, _, hs => by
    rw [List.map_eq_nil_iff.1 (List.eq_nil_of_sublist_nil hs)]
    rfl
  | name :: names, entries, hn, hs => by
    rw [List.nodup_cons] at hn
    rcases List.sublist_cons_iff.1 hs with hs | ⟨names', heq, hs⟩
    · have hnone : entries.lookup name = none :=
        (lookup_eq_none_iff_not_mem _ _).2 fun hmem => hn.1 (hs.subset hmem)
      rw [List.filterMap_cons, hnone]
      exact filterMap_lookup hn.2 hs
    · obtain ⟨⟨key, value⟩, rest, rfl, rfl, rfl⟩ := List.map_eq_cons_iff.1 heq
      have htail : names.filterMap (fun other => (((key, value) :: rest).lookup other).map (other, ·)) = rest := by
        refine Eq.trans (List.filterMap_congr fun other hother => ?_) (filterMap_lookup hn.2 hs)
        have hne : other ≠ key := fun heq => hn.1 (heq ▸ hother)
        rw [List.lookup_cons, beq_eq_false_iff_ne.2 hne]
      rw [List.filterMap_cons, List.lookup_cons_self]
      exact congrArg ((key, value) :: ·) htail

theorem Parameter.take?_argument {p : Parameter} {v : Value} (h : p.kind.accepts v = true) :
    p.take? v.argument = some v := by
  rw [take?, Value.value?_argument, Option.filter_some, if_pos h]

namespace Node

/-- **What a node shows, by name**: its parameters with their values, the position of an attachment, the children of a
container. -/
def shown (n : Node) : List (String × Argument) :=
  n.parameters.map (fun entry => (entry.1, entry.2.argument)) ++
    (if n.rule.isAttachment then [(Rule.positionSlot, .position n.position)] else []) ++
    (if n.rule.isContainer then [(Rule.contentSlot, .sequence (n.children.getD []))] else [])

theorem mem_shown_iff {n : Node} {entry : String × Argument} : entry ∈ n.shown ↔
    (∃ name v, (name, v) ∈ n.parameters ∧ entry = (name, v.argument)) ∨
      (n.rule.isAttachment = true ∧ entry = (Rule.positionSlot, .position n.position)) ∨
      (n.rule.isContainer = true ∧ entry = (Rule.contentSlot, .sequence (n.children.getD []))) := by
  rw [shown, List.mem_append, List.mem_append, or_assoc]
  refine or_congr ?_ (or_congr ?_ ?_)
  · rw [List.mem_map]
    exact ⟨fun ⟨⟨name, v⟩, hmem, heq⟩ => ⟨name, v, hmem, heq.symm⟩, fun ⟨name, v, hmem, heq⟩ => ⟨_, hmem, heq.symm⟩⟩
  · by_cases ha : n.rule.isAttachment = true <;> simp [ha]
  · by_cases hc : n.rule.isContainer = true <;> simp [hc]

/-- The names shown are those of slots, in the order of the slots. -/
theorem Fits.names_shown {n : Node} (h : n.Fits) : (n.shown.map Prod.fst).Sublist n.rule.slotNames := by
  have hparameters : (n.parameters.map fun entry => (entry.1, entry.2.argument)).map Prod.fst =
      n.parameters.map Prod.fst := by
    rw [List.map_map]
    rfl
  have hposition : ((if n.rule.isAttachment then [(Rule.positionSlot, Argument.position n.position)] else []).map
      Prod.fst) = if n.rule.isAttachment then [Rule.positionSlot] else [] := by
    split <;> rfl
  have hcontent : ((if n.rule.isContainer then [(Rule.contentSlot, Argument.sequence (n.children.getD []))] else []).map
      Prod.fst) = if n.rule.isContainer then [Rule.contentSlot] else [] := by
    split <;> rfl
  rw [shown, Rule.slotNames, List.map_append, List.map_append, hparameters, hposition, hcontent]
  exact (h.ordered.append (List.Sublist.refl _)).append (List.Sublist.refl _)

/-- A value that the node binds is one that its parameter takes. -/
theorem Fits.take?_argument {n : Node} {p : Parameter} {v : Value} (h : n.Fits) (hp : p ∈ n.rule.parameters)
    (hv : (p.name, v) ∈ n.parameters) : p.take? v.argument = some v := by
  obtain ⟨q, hq, hname, haccepts⟩ := h.accepted p.name v hv
  obtain rfl : q = p := List.inj_on_of_nodup_map h.declared hq hp hname
  exact Parameter.take?_argument haccepts

end Node

namespace Binding

variable {n : Node} {named : List (String × Argument)} (hs : n.rule.slotNames.Nodup) (h : n.Fits)
  (hperm : named.Perm n.shown)

theorem rest_named (r : Rule) (named : List (String × Argument)) : rest r ⟨[], named⟩ = [] := by
  unfold rest
  split <;> rfl

theorem value?_named (r : Rule) (named : List (String × Argument)) (slot : String) :
    value? r ⟨[], named⟩ slot = named.lookup slot := by
  rw [value?, rest_named, List.getElem?_nil, Option.or_none]

theorem surplusFault?_named (r : Rule) (named : List (String × Argument)) : surplusFault? r ⟨[], named⟩ = none := by
  rw [surplusFault?_eq_none_iff, rest_named]
  exact Nat.zero_le _

include hs h hperm

theorem lookup_shown {slot : String} {value : Argument} :
    named.lookup slot = some value ↔ (slot, value) ∈ n.shown := by
  have hnodup : (named.map Prod.fst).Nodup := (hperm.map Prod.fst).nodup_iff.2 (hs.sublist h.names_shown)
  rw [lookup_eq_some_iff_mem hnodup, hperm.mem_iff]

/-- **A slot holds what the node shows for it.** -/
theorem value?_shown {slot : String} {value : Argument} :
    value? n.rule ⟨[], named⟩ slot = some value ↔ (slot, value) ∈ n.shown := by
  rw [value?_named, lookup_shown hs h hperm]

/-- A parameter holds its value, and nothing if the node binds nothing to it. -/
theorem value?_shown_parameter {p : Parameter} (hp : p ∈ n.rule.parameters) {value : Argument} :
    value? n.rule ⟨[], named⟩ p.name = some value ↔ ∃ v, (p.name, v) ∈ n.parameters ∧ value = v.argument := by
  rw [value?_shown hs h hperm, Node.mem_shown_iff]
  constructor
  · rintro (⟨name, v, hmem, heq⟩ | ⟨ha, heq⟩ | ⟨hc, heq⟩)
    · obtain ⟨rfl, rfl⟩ := Prod.mk.inj heq
      exact ⟨v, hmem, rfl⟩
    · exact absurd (List.mem_map.2 ⟨p, hp, (Prod.mk.inj heq).1⟩) (Slots.isAttachment_of_slotNames hs ha)
    · exact absurd (List.mem_map.2 ⟨p, hp, (Prod.mk.inj heq).1⟩) (Slots.isContainer_of_slotNames hs hc)
  · rintro ⟨v, hmem, rfl⟩
    exact .inl ⟨p.name, v, hmem, rfl⟩

theorem positionValue?_shown : positionValue? n.rule ⟨[], named⟩ =
    if n.rule.isAttachment then some (.position n.position) else none := by
  unfold positionValue?
  split
  · rename_i ha
    exact (value?_shown hs h hperm).2 (Node.mem_shown_iff.2 (.inr (.inl ⟨ha, rfl⟩)))
  · rfl

theorem content_shown (hc : n.rule.isContainer = true) : content n.rule ⟨[], named⟩ = n.children.getD [] := by
  have hmem : (Rule.contentSlot, Argument.sequence (n.children.getD [])) ∈ n.shown :=
    Node.mem_shown_iff.2 (.inr (.inr ⟨hc, rfl⟩))
  have hnamed : Rule.contentSlot ∈ named.map Prod.fst := List.mem_map.2 ⟨_, hperm.mem_iff.2 hmem, rfl⟩
  rw [content, if_neg fun htake => htake.2 hnamed, (lookup_shown hs h hperm).2 hmem]
  rfl

/-- **What a parameter is bound to** is what the node binds to it. -/
theorem bound?_shown {p : Parameter} (hp : p ∈ n.rule.parameters) :
    bound? n.rule ⟨[], named⟩ p = (n.parameters.lookup p.name).map (p.name, ·) := by
  cases hl : n.parameters.lookup p.name with
  | some v =>
    have hmem := (lookup_eq_some_iff_mem h.distinct).1 hl
    rw [bound?, (value?_shown_parameter hs h hperm hp).2 ⟨v, hmem, rfl⟩, Option.bind_some,
      h.take?_argument hp hmem]
  | none =>
    have hnone : value? n.rule ⟨[], named⟩ p.name = none := by
      refine Option.eq_none_iff_forall_ne_some.2 fun value hvalue => ?_
      obtain ⟨v, hmem, -⟩ := (value?_shown_parameter hs h hperm hp).1 hvalue
      rw [(lookup_eq_some_iff_mem h.distinct).2 hmem] at hl
      cases hl
    rw [bound?, hnone]
    rfl

theorem namedFault?_shown : namedFault? n.rule named = none := by
  refine namedFault?_eq_none_of_perm hperm.symm ((namedFault?_eq_none_iff _).2 ⟨hs.sublist h.names_shown, ?_⟩)
  intro entry hentry
  refine ⟨h.names_shown.subset (List.mem_map_of_mem hentry), fun hc hname => ?_⟩
  rcases Node.mem_shown_iff.1 hentry with ⟨name, v, hmem, rfl⟩ | ⟨-, rfl⟩ | ⟨-, rfl⟩
  · exact absurd (hname ▸ h.ordered.subset (List.mem_map_of_mem hmem)) (Slots.isContainer_of_slotNames hs hc)
  · have hne : Rule.positionSlot ≠ Rule.contentSlot := by decide
    exact absurd hname hne
  · exact Option.some_ne_none _

/-- **What a node shows is not at fault.** -/
theorem fault?_shown : fault? n.rule ⟨[], named⟩ = none := by
  refine fault?_eq_none_iff.2 ⟨namedFault?_shown hs h hperm, surplusFault?_named n.rule named, ?_, ?_, ?_, ?_⟩
  · rw [missingFault?_eq_none_iff]
    intro p hp hrequired
    obtain ⟨⟨name, v⟩, hmem, hname⟩ := List.mem_map.1 (h.required p hp hrequired)
    obtain rfl : name = p.name := hname
    rw [(value?_shown_parameter hs h hperm hp).2 ⟨v, hmem, rfl⟩]
    exact Option.some_ne_none _
  · rw [kindFault?_eq_none_iff]
    intro p hp value hvalue
    obtain ⟨v, hmem, rfl⟩ := (value?_shown_parameter hs h hperm hp).1 hvalue
    rw [h.take?_argument hp hmem]
    exact Option.some_ne_none v
  · rw [contentFault?_eq_none_iff]
    intro allowed hallowed child hchild
    have hc := Rule.isContainer_of_content hallowed
    obtain ⟨children, hchildren⟩ := Option.isSome_iff_exists.1 (h.container.trans hc)
    rw [content_shown hs h hperm hc, hchildren, Option.getD_some] at hchild
    exact h.content children allowed hchildren hallowed child hchild
  · rw [positionFault?_eq_none_iff, positionValue?_shown hs h hperm]
    intro value hvalue
    split at hvalue
    · cases hvalue
      exact Option.some_ne_none n.position
    · cases hvalue

theorem node_shown : node n.rule ⟨[], named⟩ = n := by
  have hposition : (node n.rule ⟨[], named⟩).position = n.position := by
    rw [node, positionValue?_shown hs h hperm]
    by_cases ha : n.rule.isAttachment = true
    · rw [if_pos ha]
      rfl
    · rw [if_neg ha]
      by_contra hset
      exact ha (h.position (Ne.symm hset))
  have hparameters : (node n.rule ⟨[], named⟩).parameters = n.parameters := by
    rw [node_parameters, List.filterMap_congr fun p hp => bound?_shown hs h hperm hp]
    have hnames := filterMap_lookup h.declared h.ordered
    rwa [List.filterMap_map] at hnames
  have hchildren : (node n.rule ⟨[], named⟩).children = n.children := by
    rw [node]
    cases hallowed : n.rule.content with
    | none =>
      have hc : n.children.isSome = false := by rw [h.container, Rule.isContainer, hallowed]; rfl
      exact (Option.isNone_iff_eq_none.1 (Option.isSome_eq_false_iff.1 hc)).symm
    | some allowed =>
      have hc := Rule.isContainer_of_content hallowed
      obtain ⟨children, hchildren⟩ := Option.isSome_iff_exists.1 (h.container.trans hc)
      rw [content_shown hs h hperm hc, hchildren]
      rfl
  exact Node.eq_of_fields rfl hposition hparameters hchildren

end Binding

/-- **A node is built again from what it shows**, in any order of the names. -/
theorem Node.ofArguments_shown {n : Node} {named : List (String × Argument)} (hs : n.rule.slotNames.Nodup) (h : n.Fits)
    (hperm : named.Perm n.shown) : Node.ofArguments n.rule ⟨[], named⟩ = .ok n :=
  (Binding.ofArguments_eq_ok_iff hs).2
    ⟨Binding.fault?_shown hs h hperm, (Binding.node_shown hs h hperm).symm⟩

/-! ## On every run -/

namespace Node

/-- A run leaves a node fitting its rule, which stays. -/
theorem fits_afterAll (calls : List Call) {n : Node} (h : n.Fits) :
    (n.afterAll calls).Fits ∧ (n.afterAll calls).rule = n.rule := by
  have hstep : ∀ c ∈ calls, ∀ m m' : Node, m.Fits ∧ m.rule = n.rule → Call.Effect m c m' →
      m'.Fits ∧ m'.rule = n.rule :=
    fun c _ m m' hm he => ⟨he.fits hm.1, he.rule_eq.trans hm.2⟩
  exact invariant_afterAll hstep ⟨h, rfl⟩

/-- **Every node on every run is built again from what it shows**: a node that was built with a well-formed rule and
changed by any calls, done or refused, is the answer to its own parameters, position and children, each by its name and
in any order. -/
theorem rebuilt_of_run {r : Rule} {args : Arguments} {n : Node} {calls : List Call} {named : List (String × Argument)}
    (hr : r.check = .ok ()) (hn : Node.ofArguments r args = .ok n) (hnamed : named.Perm (n.afterAll calls).shown) :
    Node.ofArguments r ⟨[], named⟩ = .ok (n.afterAll calls) := by
  have hs := Rule.slotNames_nodup_of_check hr
  have hrule : n.rule = r := by
    rw [((Binding.ofArguments_eq_ok_iff hs).1 hn).2]
    rfl
  obtain ⟨hfits, hrule'⟩ := fits_afterAll calls (fits_of_ofArguments (Slots.parameters_nodup hs) hn)
  rw [hrule] at hrule'
  rw [← hrule'] at hs ⊢
  exact ofArguments_shown hs hfits hnamed

/-- The phrase after its calls, from what it shows in reverse. -/
theorem rebuilt_of_run_phrase :
    phraseRule.check = .ok () ∧ Node.ofArguments phraseRule phraseArguments = .ok phrase ∧
    (phrase.afterAll phraseCalls).size = 4 ∧
    Node.ofArguments phraseRule ⟨[], (phrase.afterAll phraseCalls).shown.reverse⟩ =
      .ok (phrase.afterAll phraseCalls) := by
  have hr : phraseRule.check = .ok () := by decide +kernel
  have hn : Node.ofArguments phraseRule phraseArguments = .ok phrase := rfl
  exact ⟨hr, hn, rfl, rebuilt_of_run hr hn (List.reverse_perm _)⟩

end Node
end Partitura
