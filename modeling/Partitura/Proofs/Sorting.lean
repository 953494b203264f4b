/-!
# Proofs.Sorting — sorting that keeps equals in their order

A comparison is a total preorder on the members of a list.  Sorting puts them in its order and leaves those that compare
equal as they stood (`stablySorted_mergeSort`), so which of two members comes first is known before (`sublist_iff`).
-/
namespace Partitura

variable {α : Type} {compare : α → α → Ordering}

/-- **A list in the order of a comparison**, members that compare equal as they stood in `xs`. -/
structure StablySorted (compare : α → α → Ordering) (xs sorted : List α) : Prop where
  perm : sorted.Perm xs
  ordered : sorted.Pairwise fun a b => (compare a b).isLE = true
  stable : ∀ a, sorted.filter (compare a · == .eq) = xs.filter (compare a · == .eq)

/-- Does `a` come before `b` once `xs` is sorted?  It compares less, or equal and stands before it. -/
def Precedes (compare : α → α → Ordering) (xs : List α) (a b : α) : Prop :=
  (a ∈ xs ∧ b ∈ xs ∧ compare a b = .lt) ∨ (compare a b = .eq ∧ [a, b].Sublist xs)

theorem bne_gt_eq_isLE (o : Ordering) : (o != .gt) = o.isLE := by cases o <;> rfl

theorem mergeSort_pair (le : α → α → Bool) (a b : α) : [a, b].mergeSort le = if le a b then [a, b] else [b, a] := by
  simp [List.mergeSort, List.merge]

variable [Std.TransCmp compare]

theorem bne_gt_trans (a b c : α) (hab : (compare a b != .gt) = true) (hbc : (compare b c != .gt) = true) :
    (compare a c != .gt) = true := by
  rw [bne_gt_eq_isLE] at hab hbc ⊢
  exact Std.TransCmp.isLE_trans hab hbc

theorem bne_gt_total (a b : α) : (compare a b != .gt || compare b a != .gt) = true := by
  have hswap : compare a b = (compare b a).swap := Std.OrientedCmp.eq_swap
  rw [hswap]
  cases compare b a <;> rfl

/-- Two members that compare equal are found among all that compare equal to the first. -/
theorem sublist_filter_eq {a b : α} (hab : compare a b = .eq) {xs : List α} :
    [a, b].Sublist (xs.filter (compare a · == .eq)) ↔ [a, b].Sublist xs := by
  refine ⟨fun h => h.trans List.filter_sublist, fun h => ?_⟩
  have haa : compare a a = .eq := Std.ReflCmp.compare_self
  have hpair := h.filter (compare a · == .eq)
  simpa only [List.filter_cons, haa, hab, BEq.rfl, if_true, List.filter_nil] using hpair

theorem stablySorted_mergeSort (xs : List α) :
    StablySorted compare xs (xs.mergeSort fun a b => compare a b != .gt) := by
  have hperm := List.mergeSort_perm xs fun a b => compare a b != .gt
  refine ⟨hperm, ?_, fun a => ?_⟩
  · exact (List.pairwise_mergeSort bne_gt_trans bne_gt_total xs).imp fun h => by rwa [bne_gt_eq_isLE] at h
  · -- The members equal to `a` are in order as they stand, so sorting keeps them as a sublist, and loses none.
    have hequal : (xs.filter (compare a · == .eq)).Pairwise fun b c => (compare b c != .gt) = true := by
      refine List.pairwise_iff_forall_sublist.2 fun {b c} h => ?_
      have hb := (List.mem_filter.1 (h.subset List.mem_cons_self)).2
      have hc := (List.mem_filter.1 (h.subset (List.mem_cons_of_mem b List.mem_cons_self))).2
      rw [beq_iff_eq] at hb hc
      refine bne_gt_trans b a c ?_ ?_
      · rw [Std.OrientedCmp.eq_comm.1 hb]
        rfl
      · rw [hc]
        rfl
    have hsub := (List.sublist_mergeSort bne_gt_trans bne_gt_total hequal List.filter_sublist).filter (compare a · == .eq)
    rw [List.filter_filter] at hsub
    simp only [Bool.and_self] at hsub
    exact (hsub.eq_of_length (hperm.filter _).length_eq.symm).symm

namespace StablySorted

variable {xs sorted : List α}

/-- **What comes first in a sorted list** is what precedes in the list before. -/
theorem sublist_iff (h : StablySorted compare xs sorted) {a b : α} :
    [a, b].Sublist sorted ↔ Precedes compare xs a b := by
  constructor
  · intro hsub
    have hle : (compare a b).isLE = true := List.pairwise_iff_forall_sublist.1 h.ordered hsub
    have ha := h.perm.subset (hsub.subset List.mem_cons_self)
    have hb := h.perm.subset (hsub.subset (List.mem_cons_of_mem a List.mem_cons_self))
    cases hab : compare a b with
    | lt => exact .inl ⟨ha, hb, hab⟩
    | eq => exact .inr ⟨hab, by rwa [← sublist_filter_eq hab, ← h.stable a, sublist_filter_eq hab]⟩
    | gt =>
      rw [hab] at hle
      cases hle
  · rintro (⟨ha, hb, hab⟩ | ⟨hab, hsub⟩)
    · obtain ⟨before, after, rfl⟩ := List.append_of_mem (h.perm.symm.subset ha)
      rcases List.mem_append.1 (h.perm.symm.subset hb) with hbefore | hafter
      · -- If `b` stood before `a`, it would not compare greater.
        have hle := (List.pairwise_append.1 h.ordered).2.2 b hbefore a List.mem_cons_self
        have hswap : compare b a = (compare a b).swap := Std.OrientedCmp.eq_swap
        rw [hswap, hab] at hle
        cases hle
      · rcases List.mem_cons.1 hafter with rfl | hafter
        · have hself : compare b b = .eq := Std.ReflCmp.compare_self
          rw [hself] at hab
          cases hab
        · exact ((List.singleton_sublist.2 hafter).cons_cons a).trans (List.sublist_append_right before _)
    · rwa [← sublist_filter_eq hab, h.stable a, sublist_filter_eq hab]

end StablySorted
end Partitura
