import Partitura.Proofs.Node.Effect
import Partitura.Proofs.Sorting
/-!
# Proofs.Node.Levels — how far down a reordering goes

A depth is the number of levels below a node that a reordering reaches, and a negative one reaches all (`Within`).  At
every level the children are arranged and each of them is handed the depth that is left (`atChild`); what is no container
stays as it is.
-/
namespace Partitura

/-- Does the depth reach down to a level? -/
def Within (depth : Int) (level : Nat) : Prop := depth < 0 ∨ (level : Int) ≤ depth

theorem within_zero (depth : Int) : Within depth 0 := by
  unfold Within
  omega

theorem within_succ_iff {depth : Int} {level : Nat} :
    Within depth (level + 1) ↔ depth ≠ 0 ∧ Within (deeper depth) level := by
  unfold Within deeper
  split <;> omega

/-- **Going deeper stays within 32 bits**, so a depth of 32 bits never overflows on the way down. -/
theorem deeper_toInt (depth : Int32) : ∃ next : Int32, deeper depth.toInt = next.toInt := by
  have hle := depth.toInt_le
  have hmax : Int32.maxValue.toInt = 2147483647 := rfl
  unfold deeper
  split
  · exact ⟨depth, rfl⟩
  · refine ⟨.ofInt (depth.toInt - 1), (Int32.toInt_ofInt_of_le ?_ ?_).symm⟩ <;> omega

/-- What a reordering that goes down to `depth` makes of a child. -/
def atChild (reorder : Element → Int → Element) (depth : Int) (e : Element) : Element :=
  if depth = 0 then e else reorder e (deeper depth)

namespace Element

def isContainer : Element → Bool
  | node n => n.children.isSome
  | toggle _ | tone _ | text _ | comment _ => false

/-- **Induction on containers**: whatever is no container is taken at once. -/
@[elab_as_elim]
theorem inductionOnContainers {motive : Element → Prop}
    (container : ∀ r p vs children, (∀ e ∈ children, motive e) → motive (node ⟨r, p, vs, some children⟩))
    (other : ∀ e, e.isContainer = false → motive e) (e : Element) : motive e := by
  induction e using inductionOnChildren with
  | container r p vs children ih => exact container r p vs children ih
  | command r p vs => exact other _ rfl
  | toggle t => exact other _ rfl
  | tone t => exact other _ rfl
  | text words => exact other _ rfl
  | comment remark => exact other _ rfl

/-- **A node some levels below an element**, through children. -/
inductive Reaches : Element → Nat → Node → Prop
  | self (n : Node) : Reaches (.node n) 0 n
  | child {n m : Node} {children : List Element} {e : Element} {level : Nat} (hn : n.children = some children)
      (he : e ∈ children) (h : Reaches e level m) : Reaches (.node n) (level + 1) m

/-- **What holds of all levels of a container**: it holds of the container, and of all levels of each child, counted one
further. -/
theorem forall_reaches_iff {P : Nat → Node → Prop} {n : Node} {children : List Element}
    (hn : n.children = some children) :
    (∀ level m, (node n).Reaches level m → P level m) ↔
      P 0 n ∧ ∀ e ∈ children, ∀ level m, e.Reaches level m → P (level + 1) m := by
  constructor
  · intro h
    exact ⟨h 0 n (.self n), fun e he level m hm => h (level + 1) m (.child hn he hm)⟩
  · rintro ⟨hself, hchildren⟩ level m hm
    cases hm with
    | self => exact hself
    | child hn' he hm =>
      obtain rfl : children = _ := Option.some.inj (hn.symm.trans hn')
      exact hchildren _ he _ m hm

theorem children_of_reaches {e : Element} (h : e.isContainer = false) {level : Nat} {m : Node} (hm : e.Reaches level m) :
    m.children = none := by
  cases hm with
  | self => exact Option.isNone_iff_eq_none.1 (Option.isSome_eq_false_iff.1 h)
  | child hn =>
    rw [isContainer, hn] at h
    cases h

/-! ## One level of reversing and sorting -/

theorem reversed_of_not_isContainer : ∀ {e : Element} (_ : e.isContainer = false) (depth : Int), e.reversed depth = e
  | node ⟨_, _, _, none⟩, _, _ => rfl
  | node ⟨_, _, _, some _⟩, h, _ => nomatch h
  | toggle _, _, _ | tone _, _, _ | text _, _, _ | comment _, _, _ => rfl

theorem sorted_of_not_isContainer (le : Element → Element → Bool) : ∀ {e : Element} (_ : e.isContainer = false)
    (depth : Int), e.sorted le depth = e
  | node ⟨_, _, _, none⟩, _, _ => rfl
  | node ⟨_, _, _, some _⟩, h, _ => nomatch h
  | toggle _, _, _ | tone _, _, _ | text _, _, _ | comment _, _, _ => rfl

end Element

theorem map_atChild (reorder : Element → Int → Element) (depth : Int) (children : List Element) :
    children.map (atChild reorder depth) = if depth = 0 then children else children.map (reorder · (deeper depth)) := by
  unfold atChild
  split
  · exact List.map_id _
  · rfl

namespace Node

theorem reversed_container (r : Rule) (p : Position) (vs : List (String × Value)) (children : List Element)
    (depth : Int) : reversed ⟨r, p, vs, some children⟩ depth =
      ⟨r, p, vs, some (children.reverse.map (atChild Element.reversed depth))⟩ := by
  rw [reversed, List.map_reverse, map_atChild, reversedEach_eq_map]

/-- **Sorting one level** compares the children as they stand, before the levels below them are sorted. -/
theorem sorted_container (le : Element → Element → Bool) (r : Rule) (p : Position) (vs : List (String × Value))
    (children : List Element) (depth : Int) : sorted le ⟨r, p, vs, some children⟩ depth =
      ⟨r, p, vs, some ((children.mergeSort le).map (atChild (Element.sorted le) depth))⟩ := by
  have hpairs : (children.mergeSort le).map (fun e => (e, atChild (Element.sorted le) depth e)) =
      (children.zip (children.map (atChild (Element.sorted le) depth))).mergeSort fun a b => le a.1 b.1 := by
    rw [← List.map_prod_left_eq_zip]
    exact List.map_mergeSort fun _ _ _ _ => rfl
  have hchildren := congrArg (List.map Prod.snd) hpairs
  rw [List.map_map] at hchildren
  rw [sorted, sortedEach_eq_map, ← map_atChild (Element.sorted le), ← hchildren]
  rfl

theorem isSome_children_reversed (n : Node) (depth : Int) :
    (n.reversed depth).children.isSome = n.children.isSome := by
  obtain ⟨r, p, vs, _ | children⟩ := n <;> rfl

theorem isSome_children_sorted (le : Element → Element → Bool) (n : Node) (depth : Int) :
    (n.sorted le depth).children.isSome = n.children.isSome := by
  obtain ⟨r, p, vs, _ | children⟩ := n <;> rfl

theorem reverse_eq {n : Node} (hn : n.children.isSome = true) (depth : Int) :
    n.reverse depth = .ok (n.reversed depth) := by
  obtain ⟨children, hchildren⟩ := Option.isSome_iff_exists.1 hn
  rw [reverse, elements_eq_ok_iff.2 hchildren]
  rfl

theorem sortBy_eq {n : Node} (hn : n.children.isSome = true) (depth : Int) (compare : Element → Element → Ordering) :
    n.sortBy depth compare = .ok (n.sorted (fun a b => compare a b != .gt) depth) := by
  obtain ⟨children, hchildren⟩ := Option.isSome_iff_exists.1 hn
  rw [sortBy, elements_eq_ok_iff.2 hchildren]
  rfl

/-- A line of markup, which may hold lines. -/
def line (children : List Element) : Node where
  rule := Rule.container "line" "\\line" (.single .markup) (.single .markup)
  position := .unset
  parameters := []
  children := some children

theorem sorted_line_pair (le : Element → Element → Bool) (a b : Element) (depth : Int) :
    (line [a, b]).sorted le depth =
      if le a b then line [atChild (Element.sorted le) depth a, atChild (Element.sorted le) depth b]
      else line [atChild (Element.sorted le) depth b, atChild (Element.sorted le) depth a] := by
  rw [line, sorted_container, mergeSort_pair]
  split <;> rfl

end Node
end Partitura
