import Mathlib.Data.List.Nodup
import Mathlib.Data.List.Perm.Basic
import Partitura.Node.Change
import Partitura.Proofs.Node.Built
/-!
# Proofs.Node.Changed — a changed node fits its rule

A new value is checked like a first one (`setParameter_eq`) and put in its place among the others: entries in the order
of their declarations are all that putting them in order can give (`inOrder_eq_of_perm`).  Children may be exchanged for
any others that the rule accepts (`Fits.withChildren`).
-/
namespace Partitura
namespace Node

theorem eq_of_fields : ∀ {n m : Node}, n.rule = m.rule → n.position = m.position → n.parameters = m.parameters →
    n.children = m.children → n = m
  | ⟨_, _, _, _⟩, ⟨_, _, _, _⟩, rfl, rfl, rfl, rfl => rfl

/-! ## The order of values -/

theorem map_fst_replaceValue (name : String) (v : Value) : ∀ vs : List (String × Value),
    (replaceValue name v vs).map Prod.fst = vs.map Prod.fst
  | [] => rfl
  | entry :: vs => by
    unfold replaceValue
    split
    · rfl
    · rw [List.map_cons, map_fst_replaceValue name v vs, List.map_cons]

theorem mem_replaceValue {name : String} {v : Value} {entry : String × Value} : ∀ {vs : List (String × Value)},
    entry ∈ replaceValue name v vs → entry ∈ vs ∨ entry = (name, v)
  | [], h => by cases h
  | e :: vs, h => by
    unfold replaceValue at h
    split at h
    · rename_i hname
      rcases List.mem_cons.1 h with rfl | h
      · exact Or.inr (by rw [beq_iff_eq.1 hname])
      · exact Or.inl (List.mem_cons_of_mem _ h)
    · rcases List.mem_cons.1 h with rfl | h
      · exact Or.inl List.mem_cons_self
      · exact (mem_replaceValue h).imp_left (List.mem_cons_of_mem _)

theorem findIdx_name_eq_idxOf (ps : List Parameter) (name : String) :
    ps.findIdx (·.name == name) = (ps.map (·.name)).idxOf name := by
  rw [List.idxOf, List.findIdx_map]
  rfl

/-- Names of their own stand in the order of their numbers. -/
theorem pairwise_idxOf {names : List String} (h : names.Nodup) :
    names.Pairwise fun a b => names.idxOf a ≤ names.idxOf b := by
  rw [List.pairwise_iff_getElem]
  intro i j hi hj hij
  rw [h.idxOf_getElem, h.idxOf_getElem]
  exact Nat.le_of_lt hij

theorem pairwise_inOrder (r : Rule) (entries : List (String × Value)) : (inOrder r entries).Pairwise fun a b =>
    (r.parameters.map (·.name)).idxOf a.1 ≤ (r.parameters.map (·.name)).idxOf b.1 := by
  have hpairs : (inOrder r entries).Pairwise fun a b => (decide (r.parameters.findIdx (·.name == a.1) ≤
      r.parameters.findIdx (·.name == b.1))) = true := by
    apply List.pairwise_mergeSort
    · intro a b c hab hbc
      simp only [decide_eq_true_eq] at hab hbc ⊢
      exact Nat.le_trans hab hbc
    · intro a b
      simp only [Bool.or_eq_true, decide_eq_true_eq]
      exact Nat.le_total _ _
  refine hpairs.imp fun hab => ?_
  rw [decide_eq_true_eq, findIdx_name_eq_idxOf, findIdx_name_eq_idxOf] at hab
  exact hab

theorem mem_inOrder {r : Rule} {entries : List (String × Value)} {entry : String × Value} :
    entry ∈ inOrder r entries ↔ entry ∈ entries := List.mem_mergeSort

/-- **Entries that stand as their names are declared** are what any arrangement of them is put in order to. -/
theorem inOrder_eq_of_perm {r : Rule} {entries sorted : List (String × Value)}
    (hr : (r.parameters.map (·.name)).Nodup) (hs : (sorted.map Prod.fst).Sublist (r.parameters.map (·.name)))
    (hperm : entries.Perm sorted) : inOrder r entries = sorted := by
  have hin : (inOrder r entries).Perm sorted := (List.mergeSort_perm _ _).trans hperm
  have hnames : (sorted.map Prod.fst).Pairwise fun a b =>
      (r.parameters.map (·.name)).idxOf a ≤ (r.parameters.map (·.name)).idxOf b := (pairwise_idxOf hr).sublist hs
  -- Both are sorted by the number of the name, and a number is that of one entry.
  refine hin.eq_of_pairwise ?_ (pairwise_inOrder r entries) (List.Pairwise.of_map Prod.fst (fun _ _ h => h) hnames)
  intro a b ha hb hab hba
  have ha' : a ∈ sorted := hin.subset ha
  have hname : a.1 = b.1 :=
    (List.idxOf_inj (hs.subset (List.mem_map_of_mem ha'))).1 (Nat.le_antisymm hab hba)
  exact List.inj_on_of_nodup_map (hs.nodup hr) ha' hb hname

/-- **Put in order**, entries of declared names stand as the names are declared. -/
theorem map_fst_inOrder {r : Rule} {entries : List (String × Value)} (hr : (r.parameters.map (·.name)).Nodup)
    (hn : (entries.map Prod.fst).Nodup) (hd : ∀ entry ∈ entries, entry.1 ∈ r.parameters.map (·.name)) :
    (inOrder r entries).map Prod.fst = (r.parameters.map (·.name)).filter (· ∈ entries.map Prod.fst) := by
  have hmem : ∀ name, name ∈ entries.map Prod.fst → name ∈ r.parameters.map (·.name) := by
    intro name hname
    obtain ⟨entry, he, rfl⟩ := List.mem_map.1 hname
    exact hd entry he
  have hperm : ((inOrder r entries).map Prod.fst).Perm (entries.map Prod.fst) := (List.mergeSort_perm _ _).map _
  have hfilter : ((r.parameters.map (·.name)).filter (· ∈ entries.map Prod.fst)).Perm (entries.map Prod.fst) := by
    refine (List.perm_ext_iff_of_nodup (hr.filter _) hn).2 fun name => ?_
    rw [List.mem_filter, decide_eq_true_eq]
    exact ⟨fun h => h.2, fun h => ⟨hmem name h, h⟩⟩
  -- Both are sorted by the number of the name and hold the same names, so they are one list.
  refine (hperm.trans hfilter.symm).eq_of_pairwise ?_ (List.pairwise_map.2 (pairwise_inOrder r entries))
    ((pairwise_idxOf hr).filter _)
  intro a b ha _ hab hba
  exact (List.idxOf_inj (hmem a (hperm.subset ha))).1 (Nat.le_antisymm hab hba)

/-! ## A value -/

/-- **The node with a value for a name**: where the old value stood, or where the declaration stands. -/
def withValue (n : Node) (name : String) (v : Value) : Node :=
  { n with parameters :=
      if name ∈ n.parameters.map Prod.fst then replaceValue name v n.parameters
      else inOrder n.rule (n.parameters ++ [(name, v)]) }

theorem any_name_eq (entries : List (String × Value)) (name : String) :
    entries.any (·.1 == name) = decide (name ∈ entries.map Prod.fst) := by
  rw [Bool.eq_iff_iff, List.any_eq_true, decide_eq_true_eq, List.mem_map]
  simp only [beq_iff_eq]

/-- **Setting a parameter** refuses an unknown name and what the parameter does not take. -/
theorem setParameter_eq (n : Node) (name : String) (value : Argument) :
    n.setParameter name value = match n.rule.parameter? name with
      | none => .error (.invalidArgument (.noSuchSlot n.rule.name name))
      | some p => match p.take? value with
        | none => .error (p.refusal n.rule.name value)
        | some v => .ok (n.withValue name v) := by
  unfold setParameter
  cases n.rule.parameter? name with
  | none => rfl
  | some p =>
    dsimp only
    rw [Parameter.check_eq]
    cases p.take? value with
    | none => rfl
    | some v =>
      rw [ok_bind, any_name_eq]
      dsimp only [withValue]
      by_cases hbound : name ∈ n.parameters.map Prod.fst
      · rw [if_pos hbound, if_pos (decide_eq_true hbound)]
        rfl
      · rw [if_neg hbound, if_neg (by simpa using hbound)]
        rfl

theorem mem_withValue {n : Node} {name : String} {v : Value} {entry : String × Value}
    (h : entry ∈ (n.withValue name v).parameters) : entry ∈ n.parameters ∨ entry = (name, v) := by
  unfold withValue at h
  dsimp only at h
  split at h
  · exact mem_replaceValue h
  · exact (List.mem_append.1 (mem_inOrder.1 h)).imp_right List.mem_singleton.1

/-- The names bound then stand as they are declared, and are those bound before and the new one. -/
theorem Fits.map_fst_withValue {n : Node} {name : String} {v : Value} (h : n.Fits)
    (hd : name ∈ n.rule.parameters.map (·.name)) :
    ((n.withValue name v).parameters.map Prod.fst).Sublist (n.rule.parameters.map (·.name)) ∧
      ∀ bound ∈ n.parameters.map Prod.fst, bound ∈ (n.withValue name v).parameters.map Prod.fst := by
  unfold withValue
  dsimp only
  split
  · rw [map_fst_replaceValue]
    exact ⟨h.ordered, fun _ hbound => hbound⟩
  · rename_i hfresh
    have hnames : (n.parameters ++ [(name, v)]).map Prod.fst = n.parameters.map Prod.fst ++ [name] := by simp
    have hnodup : ((n.parameters ++ [(name, v)]).map Prod.fst).Nodup := by
      rw [hnames, ← List.concat_eq_append, List.nodup_concat]
      exact ⟨hfresh, h.distinct⟩
    have hdeclared : ∀ entry ∈ n.parameters ++ [(name, v)], entry.1 ∈ n.rule.parameters.map (·.name) := by
      intro entry he
      rcases List.mem_append.1 he with he | he
      · exact h.ordered.subset (List.mem_map_of_mem he)
      · rw [List.mem_singleton.1 he]
        exact hd
    rw [map_fst_inOrder h.declared hnodup hdeclared, hnames]
    refine ⟨List.filter_sublist, fun bound hbound => ?_⟩
    exact List.mem_filter.2 ⟨h.ordered.subset hbound, decide_eq_true (List.mem_append_left _ hbound)⟩

/-- **A value that its parameter accepts** leaves a node fitting. -/
theorem Fits.withValue {n : Node} {p : Parameter} {v : Value} (h : n.Fits) (hp : p ∈ n.rule.parameters)
    (hv : p.kind.accepts v = true) : (n.withValue p.name v).Fits := by
  obtain ⟨hordered, hkept⟩ := h.map_fst_withValue (List.mem_map_of_mem hp) (v := v)
  exact {
    declared := h.declared
    ordered := hordered
    distinct := hordered.nodup h.declared
    required := fun q hq ho => hkept _ (h.required q hq ho)
    accepted := by
      intro name w hw
      rcases mem_withValue hw with hold | heq
      · exact h.accepted name w hold
      · cases heq
        exact ⟨p, hp, rfl, hv⟩
    container := h.container
    content := h.content
    position := h.position }

/-! ## Children -/

theorem elements_eq_ok_iff {n : Node} {children : List Element} :
    n.elements = .ok children ↔ n.children = some children := by
  unfold elements
  cases n.children <;> simp

theorem Fits.checkChild {n : Node} {old : List Element} {e : Element} (h : n.Fits) (ho : n.elements = .ok old)
    (he : e ∈ old) : n.rule.checkChild e = .ok () := by
  rw [elements_eq_ok_iff] at ho
  have hsome : n.rule.content.isSome = true := by
    rw [← Rule.isContainer, ← h.container, ho]
    rfl
  obtain ⟨allowed, ha⟩ := Option.isSome_iff_exists.1 hsome
  exact checkChild_eq_ok_iff.2 ⟨allowed, ha, h.content old allowed ho ha e he⟩

/-- **Other children** that the rule accepts leave a container fitting. -/
theorem Fits.withChildren {n : Node} {old children : List Element} (h : n.Fits) (ho : n.elements = .ok old)
    (hchildren : ∀ e ∈ children, n.rule.checkChild e = .ok ()) : (n.withChildren children).Fits := by
  rw [elements_eq_ok_iff] at ho
  exact {
    declared := h.declared
    ordered := h.ordered
    distinct := h.distinct
    required := h.required
    accepted := h.accepted
    container := by
      rw [Node.withChildren, ← h.container, ho]
      rfl
    content := by
      intro children' allowed hs ha child hchild
      obtain rfl : children = children' := Option.some.inj hs
      obtain ⟨allowed', ha', hi⟩ := checkChild_eq_ok_iff.1 (hchildren child hchild)
      obtain rfl : allowed = allowed' := Option.some.inj (ha.symm.trans ha')
      exact hi
    position := h.position }

end Node
end Partitura
