import Partitura.Proofs.Node.Call
import Partitura.Proofs.Node.Changed
/-!
# Proofs.Node.Effect — all that a call can do

A call that is not refused gives one parameter another value, or sets the position of an attachment, or exchanges the
children for some of the old ones and of those handed in, old ones perhaps reordered in their turn (`Call.Effect`).  So
whatever holds of a node on every run is shown for these three changes.
-/
namespace Partitura

/-- **What a call leaves of a child**: the child, or the child with its own children reordered. -/
inductive Element.Kept : Element → Element → Prop where
  | same (e : Element) : Kept e e
  | reversed (e : Element) (depth : Int) : Kept e (e.reversed depth)
  | sorted (e : Element) (le : Element → Element → Bool) (depth : Int) : Kept e (e.sorted le depth)

namespace Call

/-- **The change that a call makes** when it is not refused. -/
inductive Effect (n : Node) (c : Call) : Node → Prop where
  /-- A value handed in, for a parameter that takes it. -/
  | value {p : Parameter} {value : Argument} {v : Value} (hp : p ∈ n.rule.parameters) (hv : p.take? value = some v)
      (hgiven : ∀ e ∈ value.elements, e ∈ c.elements) : Effect n c (n.withValue p.name v)
  | position (q : Position) (ha : n.rule.isAttachment = true) : Effect n c { n with position := q }
  /-- Children that were kept, or handed in and accepted. -/
  | children {old children : List Element} (ho : n.elements = .ok old)
      (hchildren : ∀ e ∈ children,
        (∃ e' ∈ old, Element.Kept e' e) ∨ (e ∈ c.elements ∧ n.rule.checkChild e = .ok ())) :
      Effect n c (n.withChildren children)

variable {n n' : Node}

theorem effect_setParameter {name : String} {value : Argument} (h : n.setParameter name value = .ok n') :
    Effect n (.setParameter name value) n' := by
  rw [Node.setParameter_eq] at h
  cases hp : n.rule.parameter? name with
  | none => rw [hp] at h; cases h
  | some p =>
    have hmem : p ∈ n.rule.parameters := List.mem_of_find?_eq_some hp
    have hname : p.name = name := beq_iff_eq.1 (List.find?_some (p := fun q : Parameter => q.name == name) hp)
    rw [hp] at h
    cases hv : p.take? value with
    | none => simp [hv] at h
    | some v =>
      simp only [hv, Except.ok.injEq] at h
      rw [← h, ← hname]
      exact .value hmem hv fun _ he => he

theorem effect_setPosition {q : Position} (h : n.setPosition q = .ok n') : Effect n (.setPosition q) n' := by
  unfold Node.setPosition at h
  split at h
  · rename_i ha
    cases h
    exact .position q ha
  · cases h

/-- Children that all stood there before. -/
theorem effect_of_subset {c : Call} {old children : List Element} (ho : n.elements = .ok old)
    (h : ∀ e ∈ children, e ∈ old) : Effect n c (n.withChildren children) :=
  .children ho fun e he => .inl ⟨e, h e he, .same e⟩

theorem effect_append {child : Element} (h : n.append child = .ok n') : Effect n (.append child) n' := by
  unfold Node.append at h
  simp only [pure_eq_ok, bind_eq_ok_iff] at h
  obtain ⟨⟨⟩, hcheck, old, ho, heq⟩ := h
  cases heq
  refine .children ho fun e he => ?_
  rcases List.mem_append.1 he with he | he
  · exact .inl ⟨e, he, .same e⟩
  · rw [List.mem_singleton.1 he]
    exact .inr ⟨List.mem_cons_self, hcheck⟩

theorem effect_extend {more : List Element} (h : n.extend more = .ok n') : Effect n (.extend more) n' := by
  unfold Node.extend at h
  simp only [pure_eq_ok, bind_eq_ok_iff] at h
  obtain ⟨old, ho, ⟨⟩, hcheck, heq⟩ := h
  cases heq
  refine .children ho fun e he => ?_
  rcases List.mem_append.1 he with he | he
  · exact .inl ⟨e, he, .same e⟩
  · exact .inr ⟨he, checkChildren_eq_ok_iff.1 hcheck e he⟩

theorem effect_insert {index : Nat} {child : Element} (h : n.insert index child = .ok n') :
    Effect n (.insert index child) n' := by
  unfold Node.insert at h
  simp only [pure_eq_ok, bind_eq_ok_iff] at h
  obtain ⟨⟨⟩, hcheck, old, ho, heq⟩ := h
  cases heq
  refine .children ho fun e he => ?_
  rcases List.mem_append.1 he with he | he
  · exact .inl ⟨e, List.mem_of_mem_take he, .same e⟩
  · rcases List.mem_cons.1 he with rfl | he
    · exact .inr ⟨List.mem_cons_self, hcheck⟩
    · exact .inl ⟨e, List.mem_of_mem_drop he, .same e⟩

theorem effect_set {answer : Element × Node} {index : Nat} {child : Element} (h : n.set index child = .ok answer) :
    Effect n (.set index child) answer.2 := by
  unfold Node.set at h
  simp only [pure_eq_ok, bind_eq_ok_iff] at h
  obtain ⟨⟨⟩, hcheck, old, ho, replaced, -, heq⟩ := h
  cases heq
  refine .children ho fun e he => ?_
  rcases List.mem_or_eq_of_mem_set he with he | rfl
  · exact .inl ⟨e, he, .same e⟩
  · exact .inr ⟨List.mem_cons_self, hcheck⟩

theorem effect_delete {c : Call} {answer : Element × Node} {index : Nat} (h : n.delete index = .ok answer) :
    Effect n c answer.2 := by
  unfold Node.delete at h
  simp only [pure_eq_ok, bind_eq_ok_iff] at h
  obtain ⟨old, ho, removed, -, heq⟩ := h
  cases heq
  exact effect_of_subset ho fun e he => List.mem_of_mem_eraseIdx he

theorem effect_pop {answer : Element × Node} (h : n.pop = .ok answer) : Effect n .pop answer.2 := by
  unfold Node.pop at h
  rw [bind_eq_ok_iff] at h
  obtain ⟨old, -, hdelete⟩ := h
  exact effect_delete hdelete

theorem effect_remove {child : Element} (h : n.remove child = .ok n') : Effect n (.remove child) n' := by
  unfold Node.remove at h
  simp only [pure_eq_ok, bind_eq_ok_iff] at h
  obtain ⟨index, -, old, ho, heq⟩ := h
  cases heq
  exact effect_of_subset ho fun e he => List.mem_of_mem_eraseIdx he

theorem effect_repeatChildren {times : Nat} (h : n.repeatChildren times = .ok n') :
    Effect n (.repeatChildren times) n' := by
  unfold Node.repeatChildren at h
  simp only [pure_eq_ok, bind_eq_ok_iff] at h
  obtain ⟨old, ho, heq⟩ := h
  cases heq
  refine effect_of_subset ho fun e he => ?_
  obtain ⟨copy, hcopy, hmem⟩ := List.mem_flatten.1 he
  rwa [List.eq_of_mem_replicate hcopy] at hmem

/-! ## Reordering -/

end Call

theorem reversedEach_eq_map (depth : Int) : ∀ es, reversedEach es depth = es.map (·.reversed depth)
  | [] => rfl
  | e :: es => by rw [reversedEach, reversedEach_eq_map depth es, List.map_cons]

theorem sortedEach_eq_map (le : Element → Element → Bool) (depth : Int) : ∀ es,
    sortedEach le es depth = es.map (·.sorted le depth)
  | [] => rfl
  | e :: es => by rw [sortedEach, sortedEach_eq_map le depth es, List.map_cons]

theorem mem_reversedOrSame {children : List Element} {depth : Int} {e : Element}
    (h : e ∈ (if depth = 0 then children else reversedEach children (deeper depth))) :
    ∃ e' ∈ children, Element.Kept e' e := by
  rw [reversedEach_eq_map] at h
  split at h
  · exact ⟨e, h, .same e⟩
  · obtain ⟨e', he', rfl⟩ := List.mem_map.1 h
    exact ⟨e', he', .reversed e' (deeper depth)⟩

theorem mem_sortedOrSame {children : List Element} {le : Element → Element → Bool} {depth : Int} {e : Element}
    (h : e ∈ (if depth = 0 then children else sortedEach le children (deeper depth))) :
    ∃ e' ∈ children, Element.Kept e' e := by
  rw [sortedEach_eq_map] at h
  split at h
  · exact ⟨e, h, .same e⟩
  · obtain ⟨e', he', rfl⟩ := List.mem_map.1 h
    exact ⟨e', he', .sorted e' le (deeper depth)⟩

namespace Node

/-- **Reversing** exchanges the children for kept ones. -/
theorem reversed_eq {n : Node} {old : List Element} (ho : n.elements = .ok old) (depth : Int) :
    ∃ children, n.reversed depth = n.withChildren children ∧ ∀ e ∈ children, ∃ e' ∈ old, Element.Kept e' e := by
  obtain ⟨r, p, vs, children⟩ := n
  cases children with
  | none => cases ho
  | some children =>
    cases ho
    exact ⟨_, rfl, fun e he => mem_reversedOrSame (List.mem_reverse.1 he)⟩

/-- **Sorting** exchanges the children for kept ones. -/
theorem sorted_eq {n : Node} {old : List Element} (ho : n.elements = .ok old) (le : Element → Element → Bool)
    (depth : Int) :
    ∃ children, n.sorted le depth = n.withChildren children ∧ ∀ e ∈ children, ∃ e' ∈ old, Element.Kept e' e := by
  obtain ⟨r, p, vs, children⟩ := n
  cases children with
  | none => cases ho
  | some children =>
    cases ho
    refine ⟨_, rfl, fun e he => ?_⟩
    obtain ⟨⟨before, after⟩, hpair, rfl⟩ := List.mem_map.1 he
    exact mem_sortedOrSame (List.of_mem_zip (List.mem_mergeSort.1 hpair)).2

end Node

namespace Call

variable {n n' : Node}

theorem effect_reverse {depth : Int} (h : n.reverse depth = .ok n') : Effect n (.reverse depth) n' := by
  unfold Node.reverse at h
  simp only [pure_eq_ok, bind_eq_ok_iff] at h
  obtain ⟨old, ho, heq⟩ := h
  cases heq
  obtain ⟨children, heq, hkept⟩ := Node.reversed_eq ho depth
  rw [heq]
  exact .children ho fun e he => .inl (hkept e he)

theorem effect_sortBy {depth : Int} {compare : Element → Element → Ordering} (h : n.sortBy depth compare = .ok n') :
    Effect n (.sortBy depth compare) n' := by
  unfold Node.sortBy at h
  simp only [pure_eq_ok, bind_eq_ok_iff] at h
  obtain ⟨old, ho, heq⟩ := h
  cases heq
  obtain ⟨children, heq, hkept⟩ := Node.sorted_eq ho (fun a b => compare a b != .gt) depth
  rw [heq]
  exact .children ho fun e he => .inl (hkept e he)

/-- **All that a call can do.** -/
theorem effect_of_result : ∀ {c : Call}, c.result n = .ok n' → Effect n c n'
  | .setParameter _ _, h => effect_setParameter h
  | .setPosition _, h => effect_setPosition h
  | .append _, h => effect_append h
  | .extend _, h => effect_extend h
  | .insert _ _, h => effect_insert h
  | .set _ _, h => by
    obtain ⟨answer, hanswer, rfl⟩ := map_eq_ok_iff.1 h
    exact effect_set hanswer
  | .delete _, h => by
    obtain ⟨answer, hanswer, rfl⟩ := map_eq_ok_iff.1 h
    exact effect_delete hanswer
  | .pop, h => by
    obtain ⟨answer, hanswer, rfl⟩ := map_eq_ok_iff.1 h
    exact effect_pop hanswer
  | .remove _, h => effect_remove h
  | .reverse _, h => effect_reverse h
  | .sortBy _ _, h => effect_sortBy h
  | .repeatChildren _, h => effect_repeatChildren h

end Call

namespace Node

/-- **A call changes a node**, or leaves it as it was. -/
theorem after_eq_or_effect (n : Node) (c : Call) : n.after c = n ∨ Call.Effect n c (n.after c) := by
  unfold after
  cases hr : c.result n with
  | ok n' => exact .inr (Call.effect_of_result hr)
  | error e => exact .inl rfl

/-- **What every change of some calls keeps** holds after all of them. -/
theorem invariant_afterAll {Inv : Node → Prop} : ∀ {calls : List Call} {n : Node},
    (∀ c ∈ calls, ∀ m m', Inv m → Call.Effect m c m' → Inv m') → Inv n → Inv (n.afterAll calls)
  | [], _, _, h => h
  | c :: calls, n, hstep, h => by
    rw [List.forall_mem_cons] at hstep
    rw [afterAll, List.foldl_cons]
    refine invariant_afterAll hstep.2 ?_
    rcases n.after_eq_or_effect c with heq | heffect
    · rw [heq]
      exact h
    · exact hstep.1 n (n.after c) h heffect

end Node

/-! ## What every change keeps -/

theorem Element.categories_reversed : ∀ (e : Element) (depth : Int), (e.reversed depth).categories = e.categories
  | .node ⟨_, _, _, none⟩, _ | .node ⟨_, _, _, some _⟩, _ => rfl
  | .toggle _, _ | .tone _, _ | .text _, _ | .comment _, _ => rfl

theorem Element.categories_sorted (le : Element → Element → Bool) : ∀ (e : Element) (depth : Int),
    (e.sorted le depth).categories = e.categories
  | .node ⟨_, _, _, none⟩, _ | .node ⟨_, _, _, some _⟩, _ => rfl
  | .toggle _, _ | .tone _, _ | .text _, _ | .comment _, _ => rfl

/-- **A kept child** is accepted where the child was. -/
theorem Element.Kept.checkChild {e e' : Element} (h : Kept e e') (r : Rule) : r.checkChild e' = r.checkChild e := by
  have hcategories : e'.categories = e.categories := by
    cases h with
    | same => rfl
    | reversed depth => exact e.categories_reversed depth
    | sorted le depth => exact e.categories_sorted le depth
  unfold Rule.checkChild
  rw [hcategories]

/-- **A change keeps a node fitting its rule**, whatever the elements handed in are like inside. -/
theorem Call.Effect.fits {n n' : Node} {c : Call} (h : n.Fits) (he : Effect n c n') : n'.Fits := by
  cases he with
  | value hp hv => exact h.withValue hp (Parameter.accepts_of_take? hv)
  | position q ha => exact { h with position := fun _ => ha }
  | children ho hchildren =>
    refine h.withChildren ho fun e he => ?_
    rcases hchildren e he with ⟨e', he', hkept⟩ | ⟨-, hcheck⟩
    · rw [hkept.checkChild]
      exact h.checkChild ho he'
    · exact hcheck

theorem Call.Effect.rule_eq {n n' : Node} {c : Call} (he : Effect n c n') : n'.rule = n.rule := by
  cases he with
  | value => rfl
  | position => rfl
  | children => rfl

/-- **Other children** that are valid and accepted leave a container valid. -/
theorem Node.Valid.withChildren {n : Node} {old children : List Element} (h : n.Valid) (ho : n.elements = .ok old)
    (hchildren : ∀ e ∈ children, e.Valid ∧ n.rule.checkChild e = .ok ()) : (n.withChildren children).Valid := by
  obtain ⟨hfits, hvalues, -⟩ := (valid_iff n).1 h
  refine (valid_iff _).2 ⟨hfits.withChildren ho fun e he => (hchildren e he).2, hvalues, ?_⟩
  intro children' hs e he
  obtain rfl : children = children' := Option.some.inj hs
  exact (hchildren e he).1

theorem Node.Valid.child {n : Node} {old : List Element} {e : Element} (h : n.Valid) (ho : n.elements = .ok old)
    (he : e ∈ old) : e.Valid ∧ n.rule.checkChild e = .ok () := by
  obtain ⟨hfits, -, hchildren⟩ := (valid_iff n).1 h
  exact ⟨hchildren old (elements_eq_ok_iff.1 ho) e he, hfits.checkChild ho he⟩

mutual
/-- **Induction down the children** of nodes, which are all that reordering reaches. -/
theorem Element.inductionOnChildren {motive : Element → Prop} (toggle : ∀ t, motive (.toggle t))
    (tone : ∀ t, motive (.tone t)) (text : ∀ words, motive (.text words)) (comment : ∀ remark, motive (.comment remark))
    (command : ∀ r p vs, motive (.node ⟨r, p, vs, none⟩))
    (container : ∀ r p vs children, (∀ e ∈ children, motive e) → motive (.node ⟨r, p, vs, some children⟩)) :
    ∀ e, motive e
  | .node ⟨r, p, vs, none⟩ => command r p vs
  | .node ⟨r, p, vs, some children⟩ =>
    container r p vs children (inductionOnEach toggle tone text comment command container children)
  | .toggle t => toggle t
  | .tone t => tone t
  | .text words => text words
  | .comment remark => comment remark
theorem Element.inductionOnEach {motive : Element → Prop} (toggle : ∀ t, motive (.toggle t))
    (tone : ∀ t, motive (.tone t)) (text : ∀ words, motive (.text words)) (comment : ∀ remark, motive (.comment remark))
    (command : ∀ r p vs, motive (.node ⟨r, p, vs, none⟩))
    (container : ∀ r p vs children, (∀ e ∈ children, motive e) → motive (.node ⟨r, p, vs, some children⟩)) :
    ∀ es : List Element, ∀ e ∈ es, motive e
  | [], _, h => nomatch h
  | e :: es, e', h => (List.mem_cons.1 h).elim
    (fun heq => heq ▸ Element.inductionOnChildren toggle tone text comment command container e)
    (fun hmem => inductionOnEach toggle tone text comment command container es e' hmem)
end

/-- **A kept child** is valid if the child was. -/
theorem Element.Kept.valid (e : Element) : ∀ {e' : Element}, Kept e e' → e.Valid → e'.Valid := by
  induction e using Element.inductionOnChildren with
  | container r p vs old ih =>
    intro e' hkept h
    have ho : Node.elements ⟨r, p, vs, some old⟩ = .ok old := rfl
    -- Reversed or sorted, the children are kept ones, and those are valid by the induction.
    have hwith : ∀ children : List Element, (∀ e ∈ children, ∃ e' ∈ old, Kept e' e) →
        (Node.withChildren ⟨r, p, vs, some old⟩ children).Valid := by
      intro children hchildren
      refine Node.Valid.withChildren h ho fun e he => ?_
      obtain ⟨e', he', hkept⟩ := hchildren e he
      obtain ⟨hvalid, hcheck⟩ := Node.Valid.child h ho he'
      exact ⟨ih e' he' hkept hvalid, (hkept.checkChild r).trans hcheck⟩
    cases hkept with
    | same => exact h
    | reversed depth =>
      obtain ⟨children, heq, hchildren⟩ := Node.reversed_eq ho depth
      have hvalid : (Node.reversed ⟨r, p, vs, some old⟩ depth).Valid := heq ▸ hwith children hchildren
      exact hvalid
    | sorted le depth =>
      obtain ⟨children, heq, hchildren⟩ := Node.sorted_eq ho le depth
      have hvalid : (Node.sorted le ⟨r, p, vs, some old⟩ depth).Valid := heq ▸ hwith children hchildren
      exact hvalid
  | command r p vs => intro e' hkept h; cases hkept <;> exact h
  | toggle t => intro e' hkept h; cases hkept <;> exact h
  | tone t => intro e' hkept h; cases hkept <;> exact h
  | text words => intro e' hkept h; cases hkept <;> exact h
  | comment remark => intro e' hkept h; cases hkept <;> exact h

/-- **A change keeps a node valid** if the elements handed in are. -/
theorem Call.Effect.valid {n n' : Node} {c : Call} (h : n.Valid) (hc : ∀ e ∈ c.elements, e.Valid)
    (he : Effect n c n') : n'.Valid := by
  obtain ⟨hfits, hvalues, hchildren⟩ := (Node.valid_iff n).1 h
  have hfits' : n'.Fits := he.fits hfits
  cases he with
  | value hp hv hgiven =>
    refine (Node.valid_iff _).2 ⟨hfits', fun entry hentry => ?_, hchildren⟩
    rcases Node.mem_withValue hentry with hold | rfl
    · exact hvalues entry hold
    · exact Value.valid_of_value? (fun e he => hc e (hgiven e he)) (Parameter.value?_of_take? hv)
  | position q ha => exact (Node.valid_iff _).2 ⟨hfits', hvalues, hchildren⟩
  | children ho hkept =>
    refine h.withChildren ho fun e he => ?_
    rcases hkept e he with ⟨e', he', hkept⟩ | ⟨hgiven, hcheck⟩
    · obtain ⟨hvalid, hcheck⟩ := h.child ho he'
      exact ⟨hkept.valid _ hvalid, (hkept.checkChild n.rule).trans hcheck⟩
    · exact ⟨hc e hgiven, hcheck⟩

end Partitura
