import Partitura.Proofs.Node.Built
import Partitura.Proofs.Node.Effect
/-!
# Proofs.Node.ListCalls — calls on the children of a node

A node has children exactly if its rule is that of a container, on every way that a caller gets hold of it
(`Node.Obtained`).  So every call on the children of a command is refused for want of them, and no call on a container
ever is.
-/
namespace Partitura

/-- Is this a call on the children? -/
def Call.isOnChildren : Call → Bool
  | setParameter _ _ | setPosition _ => false
  | append _ | extend _ | insert _ _ | set _ _ | delete _ | pop | remove _ | reverse _ | sortBy _ _
  | repeatChildren _ => true

namespace Node

/-- **A node of a rule that a caller can get hold of**: built, changed by a call, or reordered with the node that it
stands in.  The elements that are handed in may be any. -/
inductive Obtained (r : Rule) : Node → Prop
  | built {args : Arguments} {n : Node} (h : ofArguments r args = .ok n) : Obtained r n
  | call {n : Node} (h : Obtained r n) (c : Call) : Obtained r (n.after c)
  | reordered {n n' : Node} (h : Obtained r n) (hkept : Element.Kept (.node n) (.node n')) : Obtained r n'

/-- A node of a rule, with children exactly if the rule is that of a container. -/
structure Shaped (r : Rule) (n : Node) : Prop where
  rule : n.rule = r
  children : n.children.isSome = r.isContainer

variable {r : Rule} {n : Node}

theorem Shaped.withChildren {old : List Element} (h : Shaped r n) (ho : n.elements = .ok old)
    (children : List Element) : Shaped r (n.withChildren children) := by
  refine ⟨h.rule, ?_⟩
  rw [← h.children, elements_eq_ok_iff.1 ho]
  rfl

theorem Shaped.effect {n' : Node} {c : Call} (h : Shaped r n) (heffect : Call.Effect n c n') : Shaped r n' := by
  cases heffect with
  | value => exact ⟨h.rule, h.children⟩
  | position => exact ⟨h.rule, h.children⟩
  | children ho => exact h.withChildren ho _

theorem Shaped.reordered {n' : Node} (h : Shaped r n) (hkept : Element.Kept (.node n) (.node n')) :
    Shaped r n' := by
  generalize hn' : Element.node n' = e' at hkept
  cases hchildren : n.children with
  | none =>
    obtain ⟨rule, position, parameters, children⟩ := n
    cases hchildren
    cases hkept <;> cases hn' <;> exact h
  | some old =>
    have ho : n.elements = .ok old := elements_eq_ok_iff.2 hchildren
    cases hkept with
    | same =>
      cases hn'
      exact h
    | reversed depth =>
      cases hn'
      obtain ⟨children, heq, -⟩ := reversed_eq ho depth
      rw [heq]
      exact h.withChildren ho children
    | sorted le depth =>
      cases hn'
      obtain ⟨children, heq, -⟩ := sorted_eq ho le depth
      rw [heq]
      exact h.withChildren ho children

theorem Obtained.shaped (h : Obtained r n) : Shaped r n := by
  induction h with
  | built hbuilt =>
    obtain ⟨named, -, -, -, hrule, -, hchildren, -⟩ := ofArguments_ok hbuilt
    refine ⟨hrule, ?_⟩
    rw [(resolveContent_ok hchildren).1, Option.isSome_map, Rule.isContainer]
  | @call n _ c ih =>
    rcases n.after_eq_or_effect c with heq | heffect
    · rw [heq]
      exact ih
    · exact ih.effect heffect
  | reordered _ hkept ih => exact ih.reordered hkept

/-! ## Commands -/

/-- **Every call on the children of a command is refused**, and so is looking for a child. -/
theorem Shaped.refused (h : Shaped r n) (hc : r.isContainer = false) :
    (∀ c : Call, c.isOnChildren = true → c.result n = .error (.notAContainer r.name)) ∧
    ∀ e, n.count e = .error (.notAContainer r.name) ∧ n.indexOf e = .error (.notAContainer r.name) := by
  obtain ⟨rfl, hchildren⟩ := h
  have hnone : n.children = none := Option.isNone_iff_eq_none.1 (Option.isSome_eq_false_iff.1 (hchildren.trans hc))
  have hcontent : n.rule.content = none := Option.isNone_iff_eq_none.1 (Option.isSome_eq_false_iff.1 hc)
  have helements : n.elements = .error (.notAContainer n.rule.name) := by
    rw [elements, hnone]
  have hcheck : ∀ e, n.rule.checkChild e = .error (.notAContainer n.rule.name) := fun e => by
    rw [Rule.checkChild, hcontent]
  have hindex : ∀ e, n.indexOf e = .error (.notAContainer n.rule.name) := fun e => by
    rw [indexOf, helements, error_bind]
  refine ⟨fun c hlist => ?_, fun e => ⟨by rw [count, helements, error_bind], hindex e⟩⟩
  cases c with
  | setParameter => cases hlist
  | setPosition => cases hlist
  | append child => rw [Call.result, append, hcheck, error_bind]
  | extend more => rw [Call.result, extend, helements, error_bind]
  | insert index child => rw [Call.result, insert, hcheck, error_bind]
  | set index child => rw [Call.result, map_eq_error_iff, set, hcheck, error_bind]
  | delete index => rw [Call.result, map_eq_error_iff, delete, helements, error_bind]
  | pop => rw [Call.result, map_eq_error_iff, pop, helements, error_bind]
  | remove child => rw [Call.result, remove, hindex, error_bind]
  | reverse depth => rw [Call.result, reverse, helements, error_bind]
  | sortBy depth compare => rw [Call.result, sortBy, helements, error_bind]
  | repeatChildren times => rw [Call.result, repeatChildren, helements, error_bind]

end Node

/-! ## Containers -/

/-- **An outcome that is no refusal for want of children.** -/
def HasChildren {α : Type} (x : Except ScoreError α) : Prop := ∀ name, x ≠ .error (.notAContainer name)

namespace HasChildren

variable {α β : Type}

theorem ok (a : α) : HasChildren (.ok a) := fun _ => nofun

theorem bind {x : Except ScoreError α} {f : α → Except ScoreError β} (hx : HasChildren x)
    (hf : ∀ a, HasChildren (f a)) : HasChildren (x >>= f) := by
  cases x with
  | error e => exact fun name heq => hx name (congrArg Except.error (Except.error.inj heq))
  | ok a => exact hf a

theorem map {x : Except ScoreError α} {f : α → β} (hx : HasChildren x) : HasChildren (f <$> x) := fun name heq =>
  hx name (map_eq_error_iff.1 heq)

theorem checkChild {r : Rule} (hc : r.isContainer = true) (e : Element) : HasChildren (r.checkChild e) := by
  obtain ⟨allowed, hallowed⟩ := Option.isSome_iff_exists.1 hc
  intro name
  rw [Rule.checkChild, hallowed]
  dsimp only
  split <;> nofun

theorem checkChildren {r : Rule} (hc : r.isContainer = true) : ∀ children, HasChildren (r.checkChildren children)
  | [] => ok ()
  | child :: children => bind (checkChild hc child) fun _ => checkChildren hc children

theorem childAt (n : Node) (children : List Element) (index : Nat) : HasChildren (n.childAt children index) := by
  intro name
  unfold Node.childAt
  split <;> nofun

end HasChildren

namespace Node

variable {r : Rule} {n : Node}

/-- **No call on a container is refused for want of children.** -/
theorem Shaped.hasChildren (h : Shaped r n) (hc : r.isContainer = true) :
    (∀ c : Call, HasChildren (c.result n)) ∧ ∀ e, HasChildren (n.count e) ∧ HasChildren (n.indexOf e) := by
  obtain ⟨rfl, hchildren⟩ := h
  obtain ⟨old, hold⟩ := Option.isSome_iff_exists.1 (hchildren.trans hc)
  have helements : HasChildren n.elements := by
    rw [elements_eq_ok_iff.2 hold]
    exact .ok old
  have hindex : ∀ e, HasChildren (n.indexOf e) := fun e => helements.bind fun children => by
    split
    · exact .ok _
    · exact fun _ => nofun
  have hdelete : ∀ index, HasChildren (n.delete index) := fun index =>
    helements.bind fun children => (HasChildren.childAt n children index).bind fun _ => .ok _
  refine ⟨fun c => ?_, fun e => ⟨helements.bind fun _ => .ok _, hindex e⟩⟩
  cases c with
  | setParameter slot value =>
    intro name
    rw [Call.result, setParameter_eq]
    split
    · exact nofun
    · split <;> nofun
  | setPosition position =>
    intro name
    rw [Call.result, setPosition]
    split <;> nofun
  | append child => exact (HasChildren.checkChild hc child).bind fun _ => helements.bind fun _ => .ok _
  | extend more => exact helements.bind fun _ => (HasChildren.checkChildren hc more).bind fun _ => .ok _
  | insert index child => exact (HasChildren.checkChild hc child).bind fun _ => helements.bind fun _ => .ok _
  | set index child =>
    refine .map ((HasChildren.checkChild hc child).bind fun _ => helements.bind fun children => ?_)
    exact (HasChildren.childAt n children index).bind fun _ => .ok _
  | delete index => exact .map (hdelete index)
  | pop => exact .map (helements.bind fun children => hdelete _)
  | remove child => exact (hindex child).bind fun _ => helements.bind fun _ => .ok _
  | reverse depth => exact helements.bind fun _ => .ok _
  | sortBy depth compare => exact helements.bind fun _ => .ok _
  | repeatChildren times => exact helements.bind fun _ => .ok _

end Node
end Partitura
