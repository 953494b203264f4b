import Mathlib.Logic.Function.Iterate
import Partitura.Proofs.Node.Reordered
import Partitura.Proofs.Render.Occurrences
/-!
# Proofs.Node.Sorted — when sorting leaves every level sorted

A level is sorted as it stands, and then the levels below it are.  So children that compare by what is inside them may
end up in another order than the one they were put in (`sortBy_disorders`).  Every level is sorted in the end exactly if
no two children change their order when the levels below them are sorted, and a second sorting then changes nothing.
-/
namespace Partitura
namespace Element

section
variable (compare : Element → Element → Ordering)

/-- **The children are in order** on every level that the depth reaches. -/
def OrderedWithin (depth : Int) (e : Element) : Prop :=
  ∀ level m, e.Reaches level m → Within depth level → ∀ children, m.children = some children →
    children.Pairwise fun a b => (compare a b).isLE = true

/-- **No two children change their order** when the levels below them are sorted, wherever the depth goes on below
them. -/
def KeepsOrder (depth : Int) (e : Element) : Prop :=
  ∀ level m, e.Reaches level m → Within depth (level + 1) → ∀ children, m.children = some children →
    ∀ a b, Precedes compare children a b →
      let sorted (e : Element) := e.sorted (fun a b => compare a b != .gt) (deeper^[level + 1] depth)
      (compare (sorted a) (sorted b)).isLE = true
end

variable {compare : Element → Element → Ordering}

theorem orderedWithin_of_not_isContainer {e : Element} (h : e.isContainer = false) (depth : Int) :
    e.OrderedWithin compare depth := by
  intro level m hm _ children hchildren
  rw [children_of_reaches h hm] at hchildren
  cases hchildren

theorem keepsOrder_of_not_isContainer {e : Element} (h : e.isContainer = false) (depth : Int) :
    e.KeepsOrder compare depth := by
  intro level m hm _ children hchildren
  rw [children_of_reaches h hm] at hchildren
  cases hchildren

theorem orderedWithin_container_iff {n : Node} {children : List Element} (hn : n.children = some children)
    (depth : Int) : (node n).OrderedWithin compare depth ↔
      (children.Pairwise fun a b => (compare a b).isLE = true) ∧
        (depth ≠ 0 → ∀ e ∈ children, e.OrderedWithin compare (deeper depth)) := by
  unfold OrderedWithin
  rw [forall_reaches_iff hn]
  refine and_congr ⟨fun h => h (within_zero depth) children hn, fun h _ children' hn' => ?_⟩ ⟨fun h hdepth e he => ?_, ?_⟩
  · obtain rfl : children = children' := Option.some.inj (hn.symm.trans hn')
    exact h
  · exact fun level m hm hlevel => h e he level m hm (within_succ_iff.2 ⟨hdepth, hlevel⟩)
  · intro h e he level m hm hlevel
    obtain ⟨hdepth, hlevel⟩ := within_succ_iff.1 hlevel
    exact h hdepth e he level m hm hlevel

theorem keepsOrder_container_iff {n : Node} {children : List Element} (hn : n.children = some children)
    (depth : Int) : (node n).KeepsOrder compare depth ↔
      (depth ≠ 0 → ∀ a b, Precedes compare children a b →
        let sorted (e : Element) := e.sorted (fun a b => compare a b != .gt) (deeper depth)
        (compare (sorted a) (sorted b)).isLE = true) ∧
        (depth ≠ 0 → ∀ e ∈ children, e.KeepsOrder compare (deeper depth)) := by
  unfold KeepsOrder
  rw [forall_reaches_iff hn]
  refine and_congr ⟨fun h hdepth => ?_, fun h hlevel children' hn' => ?_⟩ ⟨fun h hdepth e he => ?_, ?_⟩
  · exact h (within_succ_iff.2 ⟨hdepth, within_zero (deeper depth)⟩) children hn
  · obtain rfl : children = children' := Option.some.inj (hn.symm.trans hn')
    exact h (within_succ_iff.1 hlevel).1
  · exact fun level m hm hlevel => h e he level m hm (within_succ_iff.2 ⟨hdepth, hlevel⟩)
  · intro h e he level m hm hlevel
    obtain ⟨hdepth, hlevel⟩ := within_succ_iff.1 hlevel
    exact h hdepth e he level m hm hlevel

/-- **Where every level is in order**, sorting changes nothing. -/
theorem sorted_of_orderedWithin (e : Element) : ∀ depth, e.OrderedWithin compare depth →
    e.sorted (fun a b => compare a b != .gt) depth = e := by
  induction e using inductionOnContainers with
  | container r p vs children ih =>
    intro depth h
    obtain ⟨hlevel, hbelow⟩ := (orderedWithin_container_iff rfl depth).1 h
    have hsame : children.mergeSort (fun a b => compare a b != .gt) = children :=
      List.mergeSort_of_pairwise (hlevel.imp fun hab => by rwa [bne_gt_eq_isLE])
    have hchildren : ∀ e ∈ children, atChild (sorted fun a b => compare a b != .gt) depth e = e := by
      intro e he
      unfold atChild
      split
      · rfl
      · exact ih e he (deeper depth) (hbelow ‹depth ≠ 0› e he)
    rw [sorted, Node.sorted_container, hsame, List.map_congr_left hchildren, List.map_id']
  | other e he => exact fun depth _ => sorted_of_not_isContainer _ he depth

/-- **A comparison that does not see what sorting changes** inside the elements keeps the order of all children. -/
theorem keepsOrder_of_unchanged (h : ∀ a b depth, compare (a.sorted (fun a b => compare a b != .gt) depth)
    (b.sorted (fun a b => compare a b != .gt) depth) = compare a b) (e : Element) (depth : Int) :
    e.KeepsOrder compare depth := by
  intro level m _ _ children _ a b hab
  dsimp only
  rw [h]
  rcases hab with ⟨-, -, hlt⟩ | ⟨heq, -⟩
  · rw [hlt]
    rfl
  · rw [heq]
    rfl

variable [Std.TransCmp compare]

/-- **Sorting leaves every level in order** exactly if no two children change their order meanwhile. -/
theorem orderedWithin_sorted_iff (e : Element) : ∀ depth,
    (e.sorted (fun a b => compare a b != .gt) depth).OrderedWithin compare depth ↔ e.KeepsOrder compare depth := by
  induction e using inductionOnContainers with
  | container r p vs children ih =>
    intro depth
    have hsorted : StablySorted compare children (children.mergeSort fun a b => compare a b != .gt) :=
      stablySorted_mergeSort children
    rw [sorted, Node.sorted_container, orderedWithin_container_iff rfl, keepsOrder_container_iff rfl, List.pairwise_map]
    by_cases hdepth : depth = 0
    · subst hdepth
      simpa [atChild] using hsorted.ordered
    · have hchild : ∀ e, atChild (sorted fun a b => compare a b != .gt) depth e =
          e.sorted (fun a b => compare a b != .gt) (deeper depth) := fun e => if_neg hdepth
      simp only [hchild, ne_eq, hdepth, not_false_eq_true, forall_const, List.forall_mem_map, List.mem_mergeSort]
      refine and_congr ?_ (forall₂_congr fun e he => ih e he (deeper depth))
      rw [List.pairwise_iff_forall_sublist]
      exact ⟨fun h a b hab => h (hsorted.sublist_iff.2 hab), fun h a b hab => h a b (hsorted.sublist_iff.1 hab)⟩
  | other e he =>
    intro depth
    rw [sorted_of_not_isContainer _ he]
    exact iff_of_true (orderedWithin_of_not_isContainer he depth) (keepsOrder_of_not_isContainer he depth)

end Element

theorem Element.describe_sorted (le : Element → Element → Bool) : ∀ (e : Element) (depth : Int),
    (e.sorted le depth).describe = e.describe
  | .node ⟨_, _, _, none⟩, _ | .node ⟨_, _, _, some _⟩, _ => rfl
  | .toggle _, _ | .tone _, _ | .text _, _ | .comment _, _ => rfl

namespace Node

/-- **Sorting leaves every level in order, and a second sorting changes nothing**, exactly if no two children change
their order when the levels below them are sorted. -/
theorem sortBy_orders_iff {n : Node} (hn : n.children.isSome = true) (depth : Int)
    (compare : Element → Element → Ordering) [Std.TransCmp compare] :
    ∃ n', n.sortBy depth compare = .ok n' ∧
      ((Element.node n').OrderedWithin compare depth ∧ n'.sortBy depth compare = .ok n' ↔
        (Element.node n).KeepsOrder compare depth) := by
  refine ⟨_, sortBy_eq hn depth compare, ?_⟩
  have hiff : (Element.node (n.sorted (fun a b => compare a b != .gt) depth)).OrderedWithin compare depth ↔
      (Element.node n).KeepsOrder compare depth := Element.orderedWithin_sorted_iff (.node n) depth
  rw [← hiff]
  refine and_iff_left_of_imp fun hordered => ?_
  rw [sortBy_eq (by rwa [isSome_children_sorted])]
  exact congrArg Except.ok (Element.node.inj (Element.sorted_of_orderedWithin _ depth hordered))

/-- By their descriptions elements are put in order once and for all, for a line says nothing of what it holds. -/
theorem sortBy_orders_iff_refrain : refrain.children.isSome = true ∧
    ∃ n, refrain.sortBy (-1) (compareOn Element.describe) = .ok n ∧
      (Element.node n).OrderedWithin (compareOn Element.describe) (-1) ∧
      n.sortBy (-1) (compareOn Element.describe) = .ok n := by
  have hn : refrain.children.isSome = true := rfl
  obtain ⟨n, hsort, hiff⟩ := sortBy_orders_iff hn (-1) (compareOn Element.describe)
  refine ⟨hn, n, hsort, hiff.2 (Element.keepsOrder_of_unchanged (fun a b depth => ?_) _ _)⟩
  rw [compareOn, compareOn, Element.describe_sorted, Element.describe_sorted]

/-- Two lines that change their order, by their texts, when the words in the first one are sorted. -/
def couplets : Node := line [.node (line [.text "b", .text "a"]), .node (line [.text "a", .text "c"])]

/-- **Sorting by texts may leave the outermost level out of order**, and a second sorting then changes it. -/
theorem sortBy_disorders :
    let once := line [.node (line [.text "a", .text "c"]), .node (line [.text "a", .text "b"])]
    let twice := line [.node (line [.text "a", .text "b"]), .node (line [.text "a", .text "c"])]
    couplets.toggles = [] ∧ couplets.sortBy (-1) Element.compareText = .ok once ∧
      ¬ (Element.node once).OrderedWithin Element.compareText (-1) ∧
      once.sortBy (-1) Element.compareText = .ok twice ∧ once ≠ twice := by
  intro once twice
  have hwords : ∀ a b : String, (line [.text a, .text b]).sorted (fun a b => a.compareText b != .gt) (-1) =
      if Element.compareText (.text a) (.text b) != .gt then line [.text a, .text b] else line [.text b, .text a] :=
    fun a b => sorted_line_pair _ (.text a) (.text b) (-1)
  have hfirst : (line [.text "b", .text "a"]).sorted (fun a b => a.compareText b != .gt) (-1) =
      line [.text "a", .text "b"] := by rw [hwords, if_neg (by decide)]
  have hsecond : (line [.text "a", .text "c"]).sorted (fun a b => a.compareText b != .gt) (-1) =
      line [.text "a", .text "c"] := by rw [hwords, if_pos (by decide)]
  have hkept : (line [.text "a", .text "b"]).sorted (fun a b => a.compareText b != .gt) (-1) =
      line [.text "a", .text "b"] := by rw [hwords, if_pos (by decide)]
  have houtOfOrder : ¬ (Element.compareText (.node (line [.text "a", .text "c"]))
      (.node (line [.text "a", .text "b"])) != .gt) = true := by decide
  have hlater : ¬ (Element.compareText (.node (line [.text "b", .text "a"]))
      (.node (line [.text "a", .text "c"])) != .gt) = true := by decide
  refine ⟨rfl, ?_, fun h => ?_, ?_, by decide⟩
  · rw [couplets, sortBy_eq rfl, sorted_line_pair, if_neg hlater]
    exact congrArg Except.ok (congrArg₂ (fun n m => line [.node n, .node m]) hsecond hfirst)
  · have hpair := List.rel_of_pairwise_cons ((Element.orderedWithin_container_iff rfl (-1)).1 h).1 List.mem_cons_self
    rw [← bne_gt_eq_isLE] at hpair
    exact houtOfOrder hpair
  · rw [sortBy_eq rfl, sorted_line_pair, if_neg houtOfOrder]
    exact congrArg Except.ok (congrArg₂ (fun n m => line [.node n, .node m]) hkept hsecond)

end Node
end Partitura
