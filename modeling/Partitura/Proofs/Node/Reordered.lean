import Partitura.Proofs.Node.Levels
import Partitura.Render
/-!
# Proofs.Node.Reordered — reordering does nothing but reorder

What a reordering may do to a node is said level by level (`Node.Rearranged`): the children are arranged anew, and each
container among them is rearranged in its turn as long as the depth lasts.  Reversing and sorting are of the same shape
(`Reorders`), so both are taken through one induction.
-/
namespace Partitura

section
variable (Arranged : List Element → List Element → Prop)

mutual
/-- **A node with its children rearranged down to a depth**, and nothing else changed.  Which ways of arranging the
children of one node are allowed is a parameter. -/
inductive Node.Rearranged : Int → Node → Node → Prop
  | mk {depth : Int} {r : Rule} {p : Position} {vs : List (String × Value)} {children arranged children' : List Element}
      (harranged : Arranged children arranged) (heach : EachRearranged depth arranged children') :
      Node.Rearranged depth ⟨r, p, vs, some children⟩ ⟨r, p, vs, some children'⟩
/-- A child of a node that is rearranged down to a depth: the next level is reached unless the depth is zero. -/
inductive Element.RearrangedChild : Int → Element → Element → Prop
  | same {depth : Int} {e : Element} (h : e.isContainer = false ∨ depth = 0) : Element.RearrangedChild depth e e
  | inner {depth : Int} {n n' : Node} (hdepth : depth ≠ 0) (h : Node.Rearranged (deeper depth) n n') :
      Element.RearrangedChild depth (.node n) (.node n')
inductive EachRearranged : Int → List Element → List Element → Prop
  | nil {depth : Int} : EachRearranged depth [] []
  | cons {depth : Int} {e e' : Element} {es es' : List Element} (h : Element.RearrangedChild depth e e')
      (hs : EachRearranged depth es es') : EachRearranged depth (e :: es) (e' :: es')
end

/-- **A way of reordering that goes down by depth**: at every level it arranges the children and goes on with each. -/
structure Reorders (reorder : Element → Int → Element) : Prop where
  other : ∀ {e}, e.isContainer = false → ∀ depth, reorder e depth = e
  container : ∀ r p vs children depth, ∃ arranged, Arranged children arranged ∧ (∀ e ∈ arranged, e ∈ children) ∧
    reorder (.node ⟨r, p, vs, some children⟩) depth = .node ⟨r, p, vs, some (arranged.map (atChild reorder depth))⟩

variable {Arranged} {reorder : Element → Int → Element}

theorem eachRearranged_map {depth : Int} : ∀ {es : List Element},
    (∀ e ∈ es, Element.RearrangedChild Arranged depth e (atChild reorder depth e)) →
      EachRearranged Arranged depth es (es.map (atChild reorder depth))
  | [], _ => .nil
  | e :: es, h => by
    rw [List.forall_mem_cons] at h
    exact .cons h.1 (eachRearranged_map h.2)

namespace Reorders

variable (h : Reorders Arranged reorder)
include h

/-- One level is rearranged if the children are. -/
theorem rearranged_of_children (r : Rule) (p : Position) (vs : List (String × Value)) {children : List Element}
    {depth : Int} (hchildren : ∀ e ∈ children, Element.RearrangedChild Arranged depth e (atChild reorder depth e)) :
    ∃ n', reorder (.node ⟨r, p, vs, some children⟩) depth = .node n' ∧
      Node.Rearranged Arranged depth ⟨r, p, vs, some children⟩ n' := by
  obtain ⟨arranged, harranged, hmem, heq⟩ := h.container r p vs children depth
  exact ⟨_, heq, .mk harranged (eachRearranged_map fun e he => hchildren e (hmem e he))⟩

theorem rearrangedChild (e : Element) : ∀ depth, Element.RearrangedChild Arranged depth e (atChild reorder depth e) := by
  induction e using Element.inductionOnContainers with
  | container r p vs children ih =>
    intro depth
    unfold atChild
    split
    · exact .same (.inr ‹depth = 0›)
    · obtain ⟨n', heq, hn'⟩ := h.rearranged_of_children r p vs fun e he => ih e he (deeper depth)
      rw [heq]
      exact .inner ‹depth ≠ 0› hn'
  | other e he =>
    intro depth
    have hsame : atChild reorder depth e = e := by
      unfold atChild
      rw [h.other he, ite_self]
    rw [hsame]
    exact .same (.inl he)

/-- **A reordered container** is rearranged down to the depth. -/
theorem rearranged {n n' : Node} (hn : n.children.isSome = true) {depth : Int}
    (heq : reorder (.node n) depth = .node n') : Node.Rearranged Arranged depth n n' := by
  obtain ⟨r, p, vs, _ | children⟩ := n
  · cases hn
  · have hchildren : ∀ e ∈ children, Element.RearrangedChild Arranged depth e (atChild reorder depth e) :=
      fun e _ => h.rearrangedChild e depth
    obtain ⟨n'', heq', hn''⟩ := h.rearranged_of_children r p vs hchildren
    rw [heq] at heq'
    cases heq'
    exact hn''

end Reorders
end

theorem reorders_reversed : Reorders (fun children arranged => arranged.Perm children) Element.reversed where
  other h depth := Element.reversed_of_not_isContainer h depth
  container r p vs children depth :=
    ⟨children.reverse, List.reverse_perm children, fun _ => List.mem_reverse.1, by
      rw [Element.reversed, Node.reversed_container]⟩

theorem reorders_sorted (compare : Element → Element → Ordering) [Std.TransCmp compare] :
    Reorders (StablySorted compare) (Element.sorted fun a b => compare a b != .gt) where
  other h depth := Element.sorted_of_not_isContainer _ h depth
  container r p vs children depth :=
    ⟨_, stablySorted_mergeSort children, fun _ => List.mem_mergeSort.1, by
      rw [Element.sorted, Node.sorted_container]⟩

/-- Elements by their texts. -/
def Element.compareText : Element → Element → Ordering := compareOn fun e => (e.render 0 .start).1

instance : Std.TransCmp Element.compareText := inferInstanceAs (Std.TransCmp (compareOn _))

namespace Node

/-- **Reordering does nothing but reorder.**  Reversing and sorting a container leave its rule, its position and its
parameters, and permute its children; a child stays as it is unless it is a container and the depth goes on, and is then
rearranged in the same way with the depth that is left.  Sorting keeps children in their order that compare equal as
they stand, before the levels below them are sorted. -/
theorem reordering_only_reorders {n : Node} (hn : n.children.isSome = true) (depth : Int) :
    (∃ n', n.reverse depth = .ok n' ∧ Rearranged (fun children arranged => arranged.Perm children) depth n n') ∧
    ∀ (compare : Element → Element → Ordering) [Std.TransCmp compare],
      ∃ n', n.sortBy depth compare = .ok n' ∧ Rearranged (StablySorted compare) depth n n' :=
  ⟨⟨_, reverse_eq hn depth, reorders_reversed.rearranged hn rfl⟩,
    fun compare _ => ⟨_, sortBy_eq hn depth compare, (reorders_sorted compare).rearranged hn rfl⟩⟩

/-- A word before a line of two, neither in order. -/
def refrain : Node := line [.text "a", .node (line [.text "y", .text "x"])]

theorem sorted_refrain : refrain.sorted (fun a b => a.compareText b != .gt) 1 =
    line [.node (line [.text "x", .text "y"]), .text "a"] := by
  have houter : ¬ (Element.compareText (.text "a") (.node (line [.text "y", .text "x"])) != .gt) = true := by decide
  have hinner : ¬ (Element.compareText (.text "y") (.text "x") != .gt) = true := by decide
  have hline : (line [.text "y", .text "x"]).sorted (fun a b => a.compareText b != .gt) 0 =
      line [.text "x", .text "y"] := by
    rw [sorted_line_pair, if_neg hinner]
    rfl
  rw [refrain, sorted_line_pair, if_neg houter]
  exact congrArg (fun n => line [.node n, .text "a"]) hline

theorem reordering_only_reorders_refrain :
    Rearranged (fun children arranged => arranged.Perm children) 0 refrain
      (line [.node (line [.text "y", .text "x"]), .text "a"]) ∧
    Rearranged (StablySorted Element.compareText) 1 refrain
      (line [.node (line [.text "x", .text "y"]), .text "a"]) := by
  have hn : refrain.children.isSome = true := rfl
  obtain ⟨n, hreverse, hreversed⟩ := (reordering_only_reorders hn 0).1
  obtain ⟨m, hsort, hsorted⟩ := (reordering_only_reorders hn 1).2 Element.compareText
  rw [sortBy_eq hn, sorted_refrain] at hsort
  cases hreverse
  cases hsort
  exact ⟨hreversed, hsorted⟩

end Node
end Partitura
