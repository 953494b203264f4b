import Partitura.Proofs.Node.Changed
import Partitura.Proofs.Node.Faults
/-!
# Proofs.Node.Content — other content for the same arguments

What is given as content stands apart from the other arguments: taken out by its name or as the first positional
sequence, it leaves the arguments that all other slots are bound by (`Arguments.withoutContent`).  So building a node
with more content is the same as extending the node, error for error (`Binding.extend_node`).
-/
namespace Partitura

theorem lookup_filter {α : Type} (keep : String → Bool) {name : String} (h : keep name = true) :
    ∀ entries : List (String × α), (entries.filter (keep ·.1)).lookup name = entries.lookup name
  | [] => rfl
  | (key, value) :: entries => by
    have ih := lookup_filter keep h entries
    rw [List.filter_cons, List.lookup_cons]
    by_cases hkey : name = key
    · subst hkey
      rw [if_pos h, List.lookup_cons_self, beq_self_eq_true]
    · have hne : (name == key) = false := beq_eq_false_iff_ne.2 hkey
      rw [hne]
      split
      · rw [List.lookup_cons, hne]
        exact ih
      · exact ih

namespace Arguments

/-- **The arguments but for their content**, which is given by its name, or else is the first positional sequence. -/
def withoutContent (args : Arguments) : Arguments :=
  if Rule.contentSlot ∈ args.named.map Prod.fst then
    ⟨args.positional, args.named.filter (fun entry => entry.1 != Rule.contentSlot)⟩
  else ⟨args.positional.eraseP (·.items?.isSome), args.named⟩

/-- The arguments give a sequence as the content, by its name or by position. -/
inductive GivesContent (args : Arguments) (items : List Element) : Prop where
  | named (h : args.named.filter (fun entry => entry.1 == Rule.contentSlot) = [(Rule.contentSlot, .sequence items)])
  | positional (hnamed : Rule.contentSlot ∉ args.named.map Prod.fst)
      (h : args.positional.findSome? Argument.items? = some items)

/-- **The same arguments with other content**: what `args` give as content, if anything, is not in `args'`, which give
`items` in its place. -/
structure SameButContent (args args' : Arguments) (items : List Element) : Prop where
  others : args'.withoutContent = args.withoutContent
  content : args'.GivesContent items

theorem content_not_mem_withoutContent (args : Arguments) :
    Rule.contentSlot ∉ args.withoutContent.named.map Prod.fst := by
  unfold withoutContent
  split
  · intro hmem
    obtain ⟨entry, hentry, hname⟩ := List.mem_map.1 hmem
    have hkept := (List.mem_filter.1 hentry).2
    rw [hname, bne_self_eq_false] at hkept
    cases hkept
  · assumption

theorem withoutContent_sublist (args : Arguments) : args.withoutContent.named.Sublist args.named := by
  unfold withoutContent
  split
  · exact List.filter_sublist
  · exact List.Sublist.refl _

theorem lookup_withoutContent (args : Arguments) {name : String} (h : name ≠ Rule.contentSlot) :
    args.withoutContent.named.lookup name = args.named.lookup name := by
  unfold withoutContent
  split
  · exact lookup_filter (· != Rule.contentSlot) (bne_iff_ne.2 h) args.named
  · rfl

/-- The content may be given by its name, whatever the other arguments are. -/
theorem sameButContent_named (args : Arguments) (items : List Element) :
    args.SameButContent ⟨args.withoutContent.positional,
      args.withoutContent.named ++ [(Rule.contentSlot, .sequence items)]⟩ items := by
  have hfresh : ∀ entry ∈ args.withoutContent.named, entry.1 ≠ Rule.contentSlot := fun entry hentry heq =>
    args.content_not_mem_withoutContent (heq ▸ List.mem_map_of_mem hentry)
  constructor
  · have hmem : Rule.contentSlot ∈
        (args.withoutContent.named ++ [(Rule.contentSlot, Argument.sequence items)]).map Prod.fst := by simp
    have hothers : args.withoutContent.named.filter (fun entry => entry.1 != Rule.contentSlot) =
        args.withoutContent.named :=
      List.filter_eq_self.2 fun entry hentry => bne_iff_ne.2 (hfresh entry hentry)
    rw [withoutContent, if_pos hmem, List.filter_append, hothers]
    exact congrArg (Arguments.mk args.withoutContent.positional) (List.append_nil _)
  · have hnone : args.withoutContent.named.filter (fun entry => entry.1 == Rule.contentSlot) = [] :=
      List.filter_eq_nil_iff.2 fun entry hentry heq => hfresh entry hentry (beq_iff_eq.1 heq)
    refine .named ?_
    rw [List.filter_append, hnone]
    rfl

/-- With one content, the named values are those but for the content and at most one more. -/
theorem GivesContent.perm {args : Arguments} {items : List Element} (h : args.GivesContent items) :
    args.named.Perm args.withoutContent.named ∨
      args.named.Perm ((Rule.contentSlot, .sequence items) :: args.withoutContent.named) := by
  unfold withoutContent
  split
  · cases h with
    | named h =>
      right
      have hperm := List.filter_append_perm (fun entry : String × Argument => entry.1 == Rule.contentSlot) args.named
      rw [h] at hperm
      exact hperm.symm
    | positional hnamed _ => contradiction
  · exact .inl (List.Perm.refl _)

end Arguments

namespace Binding

variable {r : Rule} {args args' : Arguments} {items : List Element}

theorem takesContent_iff (hc : r.isContainer = true) :
    takesContent r args.named ↔ Rule.contentSlot ∉ args.named.map Prod.fst := and_iff_right hc

theorem rest_eq (hc : r.isContainer = true) : rest r args = args.withoutContent.positional := by
  unfold rest Arguments.withoutContent
  by_cases hmem : Rule.contentSlot ∈ args.named.map Prod.fst
  · rw [if_neg fun htake => (takesContent_iff hc).1 htake hmem, if_pos hmem]
  · rw [if_pos ((takesContent_iff hc).2 hmem), if_neg hmem]

theorem mem_names_withoutContent {name : String} (h : name ≠ Rule.contentSlot) :
    name ∈ args.withoutContent.named.map Prod.fst ↔ name ∈ args.named.map Prod.fst := by
  rw [← not_iff_not, ← lookup_eq_none_iff_not_mem, ← lookup_eq_none_iff_not_mem, args.lookup_withoutContent h]

theorem openSlots_withoutContent (hs : r.slotNames.Nodup) (hc : r.isContainer = true) :
    openSlots r args.withoutContent.named = openSlots r args.named := by
  unfold openSlots
  refine List.filter_congr fun name hname => ?_
  have hne : name ≠ Rule.contentSlot := fun heq => content_not_mem_positionalSlots hs hc (heq ▸ hname)
  exact decide_eq_decide.2 (not_congr (mem_names_withoutContent hne))

/-- **Every slot but the content** is bound by the arguments without it. -/
theorem value?_eq (hs : r.slotNames.Nodup) (hc : r.isContainer = true) {name : String} (h : name ≠ Rule.contentSlot) :
    value? r args name = (args.withoutContent.named.lookup name).or
      args.withoutContent.positional[(openSlots r args.withoutContent.named).idxOf name]? := by
  rw [value?, rest_eq hc, args.lookup_withoutContent h, openSlots_withoutContent hs hc]

/-- The content that is given is the content. -/
theorem content_eq (hc : r.isContainer = true) (h : args.GivesContent items) : content r args = items := by
  unfold content
  cases h with
  | named h =>
    have hlookup : args.named.lookup Rule.contentSlot = some (.sequence items) := by
      rw [← lookup_filter (· == Rule.contentSlot) (beq_self_eq_true _), h, List.lookup_cons_self]
    have hmem : Rule.contentSlot ∈ args.named.map Prod.fst := by
      by_contra hmem
      rw [(lookup_eq_none_iff_not_mem _ _).2 hmem] at hlookup
      cases hlookup
    rw [if_neg fun htake => (takesContent_iff hc).1 htake hmem, hlookup]
    rfl
  | positional hnamed h =>
    rw [if_pos ((takesContent_iff hc).2 hnamed), h]
    rfl

/-! ## Building with other content -/

section SameButContent

variable (hs : r.slotNames.Nodup) (hc : r.isContainer = true) (h : args.SameButContent args' items)
include hs hc h

theorem value?_of_sameButContent {name : String} (hname : name ≠ Rule.contentSlot) :
    value? r args' name = value? r args name := by
  rw [value?_eq hs hc hname, value?_eq hs hc hname, h.others]

theorem parameterValue_of_sameButContent {p : Parameter} (hp : p ∈ r.parameters) :
    value? r args' p.name = value? r args p.name :=
  value?_of_sameButContent hs hc h fun heq =>
    Slots.isContainer_of_slotNames hs hc (heq ▸ List.mem_map_of_mem hp)

theorem positionValue?_of_sameButContent : positionValue? r args' = positionValue? r args := by
  have hne : Rule.positionSlot ≠ Rule.contentSlot := by decide
  rw [positionValue?, positionValue?, value?_of_sameButContent hs hc h hne]

omit hs in
theorem namedFault?_of_sameButContent (hf : namedFault? r args.named = none) :
    namedFault? r args'.named = none := by
  obtain ⟨hnodup, hnamed⟩ := (namedFault?_eq_none_iff _).1 hf
  have hothers : namedFault? r args'.withoutContent.named = none := by
    rw [h.others, namedFault?_eq_none_iff]
    exact ⟨hnodup.sublist (args.withoutContent_sublist.map Prod.fst),
      fun entry hentry => hnamed entry (args.withoutContent_sublist.subset hentry)⟩
  rcases h.content.perm with hperm | hperm
  · exact namedFault?_eq_none_of_perm hperm.symm hothers
  · refine namedFault?_eq_none_of_perm hperm.symm ?_
    rw [namedFault?_eq_none_iff] at hothers ⊢
    rw [List.map_cons, List.nodup_cons, List.forall_mem_cons]
    refine ⟨⟨args'.content_not_mem_withoutContent, hothers.1⟩, ⟨?_, fun _ _ => nofun⟩, hothers.2⟩
    rw [slotNames_eq, if_pos hc]
    exact List.mem_append_right _ (List.mem_singleton_self _)

/-- **With other content**, nothing but the content may be at fault. -/
theorem fault?_of_sameButContent (hf : fault? r args = none) : fault? r args' = contentFault? r args' := by
  obtain ⟨hnamed, hsurplus, hmissing, hkind, -, hposition⟩ := fault?_eq_none_iff.1 hf
  have hsurplus' : surplusFault? r args' = none := by
    rw [surplusFault?_eq_none_iff] at hsurplus ⊢
    rwa [rest_eq hc, ← openSlots_withoutContent hs hc, h.others, ← rest_eq hc, openSlots_withoutContent hs hc]
  have hmissing' : missingFault? r args' = none := by
    rw [missingFault?_eq_none_iff] at hmissing ⊢
    intro p hp
    rw [parameterValue_of_sameButContent hs hc h hp]
    exact hmissing p hp
  have hkind' : kindFault? r args' = none := by
    rw [kindFault?_eq_none_iff] at hkind ⊢
    intro p hp
    rw [parameterValue_of_sameButContent hs hc h hp]
    exact hkind p hp
  have hposition' : positionFault? r args' = none := by
    rw [positionFault?, positionValue?_of_sameButContent hs hc h]
    exact hposition
  rw [fault?, namedFault?_of_sameButContent hc h hnamed, hsurplus', hmissing', hkind', hposition']
  cases contentFault? r args' <;> rfl

theorem node_of_sameButContent : node r args' = (node r args).withChildren items := by
  have hparameters : (node r args').parameters = (node r args).parameters :=
    List.filterMap_congr fun p hp => by rw [parameterValue_of_sameButContent hs hc h hp]
  have hposition : (node r args').position = (node r args).position := by
    rw [node, positionValue?_of_sameButContent hs hc h]
    rfl
  have hchildren : (node r args').children = some items := by rw [children_node hc, content_eq hc h.content]
  exact Node.eq_of_fields rfl hposition hparameters hchildren

/-- **With other content** a node is built if its children are accepted. -/
theorem ofArguments_of_sameButContent (hf : fault? r args = none) : Node.ofArguments r args' = do
    r.checkChildren items
    return (node r args).withChildren items := by
  obtain ⟨allowed, hallowed⟩ := Option.isSome_iff_exists.1 hc
  rw [ofArguments_eq_built r args' hs, built, fault?_of_sameButContent hs hc h hf, contentFault?, hallowed,
    content_eq hc h.content, checkChildren_eq hallowed, node_of_sameButContent hs hc h]
  simp only [Option.bind_eq_bind, Option.bind_some]
  cases items.find? fun child => !allowed.intersects child.categories with
  | some child => rfl
  | none => rfl

end SameButContent

end Binding

/-! ## Extending -/

theorem checkChildren_append (r : Rule) (more : List Element) : ∀ children : List Element,
    r.checkChildren (children ++ more) = do
      r.checkChildren children
      r.checkChildren more
  | [] => rfl
  | child :: children => by
    rw [List.cons_append, Rule.checkChildren, checkChildren_append r more children, Rule.checkChildren, bind_assoc]

/-- **Extending a node** is building it with more content. -/
theorem Binding.extend_node {r : Rule} {args args' : Arguments} {more : List Element} (hs : r.slotNames.Nodup)
    (hc : r.isContainer = true) (hf : fault? r args = none)
    (h : args.SameButContent args' ((node r args).children.getD [] ++ more)) :
    (node r args).extend more = Node.ofArguments r args' := by
  have hchecked : r.checkChildren (content r args) = .ok () := by
    obtain ⟨allowed, hallowed⟩ := Option.isSome_iff_exists.1 hc
    have hcontent := contentFault?_eq_none_iff.1 (fault?_eq_none_iff.1 hf).2.2.2.2.1 allowed hallowed
    exact checkChildren_eq_ok_iff.2 fun child hchild =>
      checkChild_eq_ok_iff.2 ⟨allowed, hallowed, hcontent child hchild⟩
  rw [children_node hc, Option.getD_some] at h
  rw [ofArguments_of_sameButContent hs hc h hf, checkChildren_append, hchecked, Node.extend,
    Node.elements_eq_ok_iff.2 (children_node hc)]
  rfl

namespace Node

/-- **Appending one after the other** is extending, also where a child is refused. -/
theorem foldlM_append : ∀ (more : List Element) {n : Node} {children : List Element}, n.elements = .ok children →
    more.foldlM append n = n.extend more
  | [], n, children, ho => by
    have hsame : n.withChildren children = n := eq_of_fields rfl rfl rfl (elements_eq_ok_iff.1 ho).symm
    rw [List.foldlM_nil, extend, ho, ok_bind, List.append_nil, hsame]
    rfl
  | child :: more, n, children, ho => by
    rw [List.foldlM_cons, append, extend, ho, ok_bind, Rule.checkChildren]
    cases n.rule.checkChild child with
    | error e => rfl
    | ok checked =>
      have ih := foldlM_append more (n := n.withChildren (children ++ [child])) rfl
      rw [ok_bind, ok_bind, ok_bind, pure_bind, ih, extend, List.append_cons children child more]
      rfl

end Node
end Partitura
