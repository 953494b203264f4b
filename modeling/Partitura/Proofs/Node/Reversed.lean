import Partitura.Proofs.Node.Levels
/-!
# Proofs.Node.Reversed — reversing twice, and how deep is deep enough

A second reversing of the same depth meets the same containers at the same depths left, wherever they have moved, and
puts back each level (`Element.reversed_reversed`).  A depth that no chain of containers exceeds is as good as none.
-/
namespace Partitura

theorem Element.reversed_reversed (e : Element) : ∀ depth, (e.reversed depth).reversed depth = e := by
  induction e using Element.inductionOnContainers with
  | container r p vs children ih =>
    intro depth
    have hchild : ∀ e ∈ children, atChild reversed depth (atChild reversed depth e) = e := fun e he => by
      unfold atChild
      split
      · rfl
      · exact ih e he (deeper depth)
    have hmap : children.map (fun e => atChild reversed depth (atChild reversed depth e)) = children :=
      (List.map_congr_left hchild).trans (List.map_id' children)
    simp only [reversed, Node.reversed_container, List.map_reverse, List.reverse_reverse, List.map_map,
      Function.comp_def, hmap]
  | other e he =>
    intro depth
    rw [reversed_of_not_isContainer he, reversed_of_not_isContainer he]

/-- **A depth that reaches every container** below an element does as much as no limit. -/
theorem Element.reversed_eq_unlimited (e : Element) : ∀ depth : Int,
    (∀ level m, e.Reaches (level + 1) m → m.children.isSome = true → ((level + 1 : Nat) : Int) ≤ depth) →
      e.reversed depth = e.reversed (-1) := by
  induction e using Element.inductionOnContainers with
  | container r p vs children ih =>
    intro depth h
    have hchild : ∀ e ∈ children, atChild reversed depth e = atChild reversed (-1) e := by
      intro e he
      have hbelow : ∀ level m, e.Reaches level m → m.children.isSome = true → ((level + 1 : Nat) : Int) ≤ depth :=
        fun level m hm => h level m (.child rfl he hm)
      have hunlimited : atChild reversed (-1) e = e.reversed (-1) := rfl
      cases hc : e.isContainer with
      | false =>
        unfold atChild
        simp only [e.reversed_of_not_isContainer hc, ite_self]
      | true =>
        obtain ⟨n, rfl⟩ : ∃ n, e = node n := by
          cases e with
          | node n => exact ⟨n, rfl⟩
          | _ => cases hc
        have hdepth := hbelow 0 n (.self n) hc
        have hnot : depth ≠ 0 := by omega
        have hdeeper : deeper depth = depth - 1 := if_neg (by omega)
        rw [hunlimited, atChild, if_neg hnot, hdeeper]
        refine ih _ he (depth - 1) fun level m hm hm' => ?_
        have := hbelow (level + 1) m hm hm'
        omega
    rw [reversed, reversed, Node.reversed_container, Node.reversed_container]
    congr 3
    exact List.map_congr_left fun e he => hchild e (List.mem_reverse.1 he)
  | other e he =>
    intro depth _
    rw [reversed_of_not_isContainer he, reversed_of_not_isContainer he]

namespace Node

/-- **Reversing a container twice restores it**, at every depth; and where no chain of containers below it is longer than
the depth, reversing goes as far as without a limit. -/
theorem reverse_twice {n : Node} (hn : n.children.isSome = true) (depth : Int) :
    (∃ n', n.reverse depth = .ok n' ∧ n'.reverse depth = .ok n) ∧
    ((∀ level m, (Element.node n).Reaches (level + 1) m → m.children.isSome = true →
        ((level + 1 : Nat) : Int) ≤ depth) → n.reverse depth = n.reverse (-1)) := by
  constructor
  · refine ⟨n.reversed depth, reverse_eq hn depth, ?_⟩
    rw [reverse_eq (by rwa [isSome_children_reversed])]
    exact congrArg Except.ok (Element.node.inj (Element.reversed_reversed (.node n) depth))
  · intro h
    rw [reverse_eq hn, reverse_eq hn]
    exact congrArg Except.ok (Element.node.inj (Element.reversed_eq_unlimited (.node n) depth h))

/-- A line between two words, with two words of its own. -/
def verse : Node := line [.text "a", .node (line [.text "x", .text "y"]), .text "b"]

theorem reverse_twice_verse :
    verse.reverse 1 = .ok (line [.text "b", .node (line [.text "y", .text "x"]), .text "a"]) ∧
    (∃ n', verse.reverse 1 = .ok n' ∧ n'.reverse 1 = .ok verse) ∧ verse.reverse 1 = verse.reverse (-1) ∧
    (∃ n', verse.reverse Int32.minValue.toInt = .ok n' ∧ n'.reverse Int32.minValue.toInt = .ok verse) ∧
    ∃ n', verse.reverse Int32.maxValue.toInt = .ok n' ∧ n'.reverse Int32.maxValue.toInt = .ok verse := by
  have hn : verse.children.isSome = true := rfl
  have hone : ∀ level m, (Element.node verse).Reaches (level + 1) m → m.children.isSome = true →
      ((level + 1 : Nat) : Int) ≤ 1 := by
    rintro level m (_ | ⟨hn, he, hm⟩) hcontainer
    cases hn
    simp only [List.mem_cons, List.not_mem_nil, or_false] at he
    rcases he with rfl | rfl | rfl
    · cases hm
    · -- Below the inner line there are words only.
      rcases hm with _ | ⟨hn, he, hm⟩
      · decide
      · cases hn
        simp only [List.mem_cons, List.not_mem_nil, or_false] at he
        rcases he with rfl | rfl <;> cases hm
    · cases hm
  exact ⟨rfl, (reverse_twice hn 1).1, (reverse_twice hn 1).2 hone, (reverse_twice hn _).1, (reverse_twice hn _).1⟩

end Node
end Partitura
