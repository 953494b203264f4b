import Mathlib.Data.List.Count
import Partitura.Proofs.Node.Changed
/-!
# Proofs.Node.PlainList — the children of a container are a plain list

Calls on the children of a container answer what they would answer of a plain list of elements, and leave what they
would leave of it (`ListCall.onNode_eq`); everything else of the container is as it was.  A list knows which elements may
enter and what it is called in errors, and nothing of rules.
-/
namespace Partitura

/-- **A call on the children of a container.** -/
inductive ListCall where
  | append (child : Element)
  | extend (more : List Element)
  | insert (index : Nat) (child : Element)
  | set (index : Nat) (child : Element)
  | delete (index : Nat)
  | pop
  | remove (child : Element)
  | count (child : Element)
  | indexOf (child : Element)

/-- **What a call answers** that is not refused. -/
inductive ListAnswer where
  | done
  | child (child : Element)
  | number (number : Nat)

/-- **Calls one after the other**: what each of them answers, and the state then, which a refused call leaves as it
was. -/
def ListCall.trace {σ : Type} (call : σ → ListCall → Except ScoreError (ListAnswer × σ)) :
    σ → List ListCall → List (Except ScoreError ListAnswer × σ)
  | _, [] => []
  | s, c :: calls =>
    match call s c with
    | .ok (answer, reached) => (.ok answer, reached) :: trace call reached calls
    | .error e => (.error e, s) :: trace call s calls

/-! ## Plain lists -/

/-- Refuses the first of several elements that shares no category with those that are allowed. -/
def allow (name : String) (allowed : CategorySet) (more : List Element) : Except ScoreError Unit :=
  match more.find? fun e => !allowed.intersects e.categories with
  | some e => .error (.invalidContent name allowed e.categories)
  | none => .ok ()

/-- The element that stands at a place of a list. -/
def elementAt (name : String) (xs : List Element) (index : Nat) : Except ScoreError Element :=
  if h : index < xs.length then .ok xs[index] else .error (.indexOutOfRange name index xs.length)

namespace ListCall

/-- **A call on a plain list.** -/
def onList (name : String) (allowed : CategorySet) (xs : List Element) :
    ListCall → Except ScoreError (ListAnswer × List Element)
  | append child => do
    allow name allowed [child]
    return (.done, xs ++ [child])
  | extend more => do
    allow name allowed more
    return (.done, xs ++ more)
  | insert index child => do
    allow name allowed [child]
    return (.done, xs.insertIdx (min index xs.length) child)
  | set index child => do
    allow name allowed [child]
    let old ← elementAt name xs index
    return (.child old, xs.set index child)
  | delete index => do
    let old ← elementAt name xs index
    return (.child old, xs.eraseIdx index)
  | pop =>
    match xs.getLast? with
    | some last => .ok (.child last, xs.dropLast)
    | none => .error (.indexOutOfRange name 0 0)
  | remove child => if child ∈ xs then .ok (.done, xs.erase child) else .error (.childNotFound name)
  | count child => .ok (.number (xs.count child), xs)
  | indexOf child => if child ∈ xs then .ok (.number (xs.idxOf child), xs) else .error (.childNotFound name)

def onNode (n : Node) : ListCall → Except ScoreError (ListAnswer × Node)
  | append child => (.done, ·) <$> n.append child
  | extend more => (.done, ·) <$> n.extend more
  | insert index child => (.done, ·) <$> n.insert index child
  | set index child => Prod.map .child id <$> n.set index child
  | delete index => Prod.map .child id <$> n.delete index
  | pop => Prod.map .child id <$> n.pop
  | remove child => (.done, ·) <$> n.remove child
  | count child => (.number ·, n) <$> n.count child
  | indexOf child => (.number ·, n) <$> n.indexOf child

end ListCall

theorem insertIdx_min_length {α : Type} (x : α) : ∀ (xs : List α) (index : Nat),
    xs.insertIdx (min index xs.length) x = xs.take index ++ x :: xs.drop index
  | [], index => by simp
  | y :: ys, 0 => by simp
  | y :: ys, index + 1 => by
    rw [List.length_cons, Nat.succ_min_succ, List.insertIdx_succ_cons, insertIdx_min_length x ys index]
    rfl

/-! ## Containers -/

section
variable {n : Node} {allowed : CategorySet} (hallowed : n.rule.content = some allowed)
include hallowed

theorem checkChildren_eq_allow : ∀ more : List Element, n.rule.checkChildren more = allow n.rule.name allowed more
  | [] => rfl
  | e :: more => by
    rw [Rule.checkChildren, Rule.checkChild, hallowed, checkChildren_eq_allow more, allow, allow, List.find?_cons]
    dsimp only
    cases allowed.intersects e.categories <;> rfl

theorem checkChild_eq_allow (child : Element) : n.rule.checkChild child = allow n.rule.name allowed [child] := by
  rw [← checkChildren_eq_allow hallowed]
  cases h : n.rule.checkChild child <;> simp [Rule.checkChildren, h]

end

theorem childAt_eq_elementAt (n : Node) (xs : List Element) (index : Nat) :
    n.childAt xs index = elementAt n.rule.name xs index := by
  rw [Node.childAt, elementAt]
  split
  · next child hchild =>
    obtain ⟨hlt, rfl⟩ := List.getElem?_eq_some_iff.1 hchild
    rw [dif_pos hlt]
  · next hnone =>
    rw [dif_neg (Nat.not_lt.2 (List.getElem?_eq_none_iff.1 hnone))]

theorem indexOf_eq {n : Node} {xs : List Element} (hxs : n.children = some xs) (child : Element) :
    n.indexOf child = if child ∈ xs then .ok (xs.idxOf child) else .error (.childNotFound n.rule.name) := by
  have hfind : xs.findIdx? (· == child) = if child ∈ xs then some (xs.idxOf child) else none := by
    by_cases hmem : child ∈ xs
    · rw [if_pos hmem, List.findIdx?_eq_guard_findIdx_lt, Option.guard_eq_some_iff]
      exact ⟨rfl, decide_eq_true (List.idxOf_lt_length_of_mem hmem)⟩
    · rw [if_neg hmem]
      exact List.idxOf?_eq_none_iff.2 hmem
  rw [Node.indexOf, Node.elements_eq_ok_iff.2 hxs, ok_bind, hfind]
  by_cases hmem : child ∈ xs
  · rw [if_pos hmem, if_pos hmem]
    rfl
  · rw [if_neg hmem, if_neg hmem]
    rfl

/-- **A call on a container** is the call on the list of its children. -/
theorem ListCall.onNode_eq {n : Node} {allowed : CategorySet} {xs : List Element}
    (hallowed : n.rule.content = some allowed) (hxs : n.children = some xs) (c : ListCall) :
    c.onNode n = Prod.map id n.withChildren <$> c.onList n.rule.name allowed xs := by
  have helements : n.elements = .ok xs := Node.elements_eq_ok_iff.2 hxs
  have hsame : n.withChildren xs = n := Node.eq_of_fields rfl rfl rfl hxs.symm
  have hindex := indexOf_eq hxs
  -- On both sides the content is looked at first and the place behind it; what is left are the answers of the two.
  cases c with
  | append child =>
    rw [onNode, Node.append, onList, checkChild_eq_allow hallowed, helements]
    cases allow n.rule.name allowed [child] <;> rfl
  | extend more =>
    rw [onNode, Node.extend, onList, checkChildren_eq_allow hallowed, helements]
    cases allow n.rule.name allowed more <;> rfl
  | insert index child =>
    rw [onNode, Node.insert, onList, checkChild_eq_allow hallowed, helements, insertIdx_min_length]
    cases allow n.rule.name allowed [child] <;> rfl
  | set index child =>
    rw [onNode, Node.set, onList, checkChild_eq_allow hallowed, helements, ok_bind, childAt_eq_elementAt]
    cases allow n.rule.name allowed [child] with
    | error e => rfl
    | ok checked => cases elementAt n.rule.name xs index <;> rfl
  | delete index =>
    rw [onNode, Node.delete, onList, helements, ok_bind, childAt_eq_elementAt]
    cases elementAt n.rule.name xs index <;> rfl
  | pop =>
    rw [onNode, Node.pop, onList, helements, ok_bind, Node.delete, helements, ok_bind, Node.childAt,
      ← List.getLast?_eq_getElem?]
    cases hlast : xs.getLast? with
    | none =>
      obtain rfl := List.getLast?_eq_none_iff.1 hlast
      rfl
    | some last =>
      have hlength : xs.length - 1 + 1 = xs.length :=
        Nat.sub_add_cancel (List.length_pos_of_mem (List.mem_of_getLast? hlast))
      rw [List.dropLast_eq_eraseIdx hlength]
      rfl
  | remove child =>
    rw [onNode, Node.remove, hindex, helements, onList]
    by_cases hmem : child ∈ xs
    · rw [if_pos hmem, if_pos hmem, ← List.eraseIdx_idxOf_eq_erase]
      rfl
    · rw [if_neg hmem, if_neg hmem]
      rfl
  | count child =>
    rw [onNode, Node.count, helements, onList]
    exact congrArg (fun m => Except.ok (ListAnswer.number (xs.count child), m)) hsame.symm
  | indexOf child =>
    rw [onNode, hindex, onList]
    by_cases hmem : child ∈ xs
    · rw [if_pos hmem, if_pos hmem]
      exact congrArg (fun m => Except.ok (ListAnswer.number (xs.idxOf child), m)) hsame.symm
    · rw [if_neg hmem, if_neg hmem]
      rfl

theorem ListCall.trace_onNode {n : Node} {allowed : CategorySet} (hallowed : n.rule.content = some allowed) :
    ∀ (calls : List ListCall) (xs : List Element),
      trace (fun n c => c.onNode n) (n.withChildren xs) calls =
        (trace (fun xs c => c.onList n.rule.name allowed xs) xs calls).map (Prod.map id n.withChildren)
  | [], _ => rfl
  | c :: calls, xs => by
    have hcall : c.onNode (n.withChildren xs) = Prod.map id n.withChildren <$> c.onList n.rule.name allowed xs :=
      ListCall.onNode_eq (n := n.withChildren xs) hallowed rfl c
    rw [trace, trace, hcall]
    cases c.onList n.rule.name allowed xs with
    | error e =>
      rw [List.map_cons, ← trace_onNode hallowed calls xs]
      rfl
    | ok reached =>
      rw [List.map_cons, ← trace_onNode hallowed calls reached.2]
      rfl

/-! ## Equal elements -/

/-- **The first of the elements equal to one** is found and removed, and the others stay as they are. -/
theorem first_equal {xs : List Element} {e : Element} (h : 0 < xs.count e) :
    xs[xs.idxOf e]? = some e ∧ (∀ j < xs.idxOf e, xs[j]? ≠ some e) ∧ xs.erase e = xs.eraseIdx (xs.idxOf e) ∧
      (xs.erase e).count e + 1 = xs.count e ∧ ∀ e' ≠ e, (xs.erase e).count e' = xs.count e' := by
  have hlt : xs.idxOf e < xs.length := List.idxOf_lt_length_of_mem (List.count_pos_iff.1 h)
  refine ⟨List.getElem?_eq_some_iff.2 ⟨hlt, List.getElem_idxOf hlt⟩, fun j hj heq => ?_,
    (List.eraseIdx_idxOf_eq_erase e xs).symm, ?_, fun e' hne => List.count_erase_of_ne hne⟩
  · obtain ⟨hj', rfl⟩ := List.getElem?_eq_some_iff.1 heq
    have hno := List.not_of_lt_findIdx hj
    simp at hno
  · rw [List.count_erase_self]
    omega

/-- **The children of a container are a plain list.**  Whatever calls are made one after the other, each answers what it
answers of a plain list, and leaves the container with the elements that it leaves in the list, and otherwise as it was.
In a list the first of the elements equal to one is found, and it alone is removed; neither is done if there is none. -/
theorem Node.children_refine_list {n : Node} {allowed : CategorySet} {xs : List Element}
    (hallowed : n.rule.content = some allowed) (hxs : n.children = some xs) :
    let onList (xs : List Element) (c : ListCall) := c.onList n.rule.name allowed xs
    (∀ calls : List ListCall, ListCall.trace (fun n c => c.onNode n) n calls =
      (ListCall.trace onList xs calls).map (Prod.map id n.withChildren)) ∧
    ∀ (xs : List Element) (e : Element),
      (xs.count e = 0 → onList xs (.indexOf e) = .error (.childNotFound n.rule.name) ∧
        onList xs (.remove e) = .error (.childNotFound n.rule.name)) ∧
      (0 < xs.count e → ∃ i rest, onList xs (.indexOf e) = .ok (.number i, xs) ∧
        onList xs (.remove e) = .ok (.done, rest) ∧ xs[i]? = some e ∧ (∀ j < i, xs[j]? ≠ some e) ∧
          rest = xs.eraseIdx i ∧ rest.count e + 1 = xs.count e ∧ ∀ e' ≠ e, rest.count e' = xs.count e') := by
  intro onList
  refine ⟨fun calls => ?_, fun xs e => ⟨fun hnone => ?_, fun hsome => ?_⟩⟩
  · have hsame : n.withChildren xs = n := eq_of_fields rfl rfl rfl hxs.symm
    have htrace := ListCall.trace_onNode hallowed calls xs
    rwa [hsame] at htrace
  · have hmem : e ∉ xs := List.count_eq_zero.1 hnone
    exact ⟨if_neg hmem, if_neg hmem⟩
  · have hmem : e ∈ xs := List.count_pos_iff.1 hsome
    exact ⟨xs.idxOf e, xs.erase e, if_pos hmem, if_pos hmem, first_equal hsome⟩

/-- Signs in a container: the opening and closing of one slur, and another slur between them. -/
def signs : Node where
  rule := Rule.container "signs" "" (.single .music) (.single .attachment)
  position := .unset
  parameters := []
  children := some [.toggle (.slur 1), .toggle (.slur 2), .toggle (.slur 1)]

theorem Node.children_refine_list_signs :
    signs.rule.content = some (.single .attachment) ∧
    signs.children = some [.toggle (.slur 1), .toggle (.slur 2), .toggle (.slur 1)] ∧
    ListCall.trace (fun n c => c.onNode n) signs [.indexOf (.toggle (.slur 2)), .remove (.toggle (.slur 1)),
      .extend [.toggle (.slur 3), .text "a", .comment "b"], .insert 9 (.toggle (.slur 2)), .delete 3, .pop] =
      let left := signs.withChildren [.toggle (.slur 2), .toggle (.slur 1)]
      let more := signs.withChildren [.toggle (.slur 2), .toggle (.slur 1), .toggle (.slur 2)]
      [(.ok (.number 1), signs), (.ok .done, left),
        (.error (.invalidContent "signs" (.single .attachment) (.single .markup)), left), (.ok .done, more),
        (.error (.indexOutOfRange "signs" 3 3), more), (.ok (.child (.toggle (.slur 2))), left)] :=
  ⟨rfl, rfl, ((Node.children_refine_list (n := signs) rfl rfl).1 _).trans rfl⟩

end Partitura
