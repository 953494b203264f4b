import Partitura.Proofs.Node.Correspondence
/-!
# Proofs.Node.Order — where the order of arguments does not matter

Two values that are named one after the other go to two slots, and can be named the other way round
(`Slots.Placed.comm`); so names may come in any order (`Slots.bindAll_perm`).  The first sequence is taken out from
among the positional values before these are counted, so its place among them does not matter as long as it is the
first.  Both hold for every rule, also for one that is not well-formed.
-/
namespace Partitura
namespace Slots

variable {r : Rule} {s t u : Slots}

/-- **Two named values** may be given in either order. -/
theorem Placed.comm {name name' : String} {value value' : Argument} (h : Placed r s name value t)
    (h' : Placed r t name' value' u) : ∃ t', Placed r s name' value' t' ∧ Placed r t' name value u := by
  cases h with
  | parameter hi hopen =>
    rename_i i
    cases h' with
    | parameter hj hopen' =>
      rename_i j
      -- The second place was open after the first was filled, so they are two.
      have hne : i ≠ j := by
        rintro rfl
        rw [List.getElem?_set_self', hopen] at hopen'
        cases hopen'
      rw [List.getElem?_set_ne hne] at hopen'
      have hopen'' : (s.parameters.set j (some value'))[i]? = some none := by
        rw [List.getElem?_set_ne hne.symm]
        exact hopen
      refine ⟨_, .parameter hj hopen', ?_⟩
      rw [List.set_comm _ _ hne]
      exact .parameter hi hopen''
    | position hother hname ha hopen' => exact ⟨_, .position hother hname ha hopen', .parameter hi hopen⟩
    | content hother hname hc hvalue hopen' => exact ⟨_, .content hother hname hc hvalue hopen', .parameter hi hopen⟩
  | position hother hname ha hopen =>
    cases h' with
    | parameter hj hopen' => exact ⟨_, .parameter hj hopen', .position hother hname ha hopen⟩
    | position _ _ _ hopen' => cases hopen'
    | content hother' hname' hc hvalue hopen' =>
      exact ⟨_, .content hother' hname' hc hvalue hopen', .position hother hname ha hopen⟩
  | content hother hname hc hvalue hopen =>
    cases h' with
    | parameter hj hopen' => exact ⟨_, .parameter hj hopen', .content hother hname hc hvalue hopen⟩
    | position hother' hname' ha hopen' =>
      exact ⟨_, .position hother' hname' ha hopen', .content hother hname hc hvalue hopen⟩
    | content _ _ _ _ hopen' => cases hopen'

/-- **Named values** may be given in any order. -/
theorem bindAll_perm {named named' : List (String × Argument)} (hperm : named.Perm named') :
    s.parameters.length = r.parameters.length → bindAll r s named = .ok t → bindAll r s named' = .ok t := by
  induction hperm generalizing s with
  | nil => exact fun _ h => h
  | cons entry _ ih =>
    intro hlength h
    obtain ⟨s₁, hs₁, hrest⟩ := bind_eq_ok_iff.1 h
    have hlength₁ := (placed_of_bindNamed hlength hs₁).length.trans hlength
    exact bind_eq_ok_iff.2 ⟨s₁, hs₁, ih hlength₁ hrest⟩
  | swap second first rest =>
    intro hlength h
    obtain ⟨s₁, hs₁, h⟩ := bind_eq_ok_iff.1 h
    obtain ⟨s₂, hs₂, hrest⟩ := bind_eq_ok_iff.1 h
    have hfirst := placed_of_bindNamed hlength hs₁
    obtain ⟨s₁', hsecond, hagain⟩ := hfirst.comm (placed_of_bindNamed (hfirst.length.trans hlength) hs₂)
    exact bind_eq_ok_iff.2 ⟨s₁', hsecond.bindNamed_eq, bind_eq_ok_iff.2 ⟨s₂, hagain.bindNamed_eq, hrest⟩⟩
  | trans _ _ ih ih' => exact fun hlength h => ih' hlength (ih hlength h)

/-- Without a named content, the content is open when the positional values come. -/
theorem content_of_bindAll {named : List (String × Argument)} (hnone : Rule.contentSlot ∉ named.map Prod.fst)
    (h : bindAll r (vacant r) named = .ok s) : s.content = none := by
  refine bindAll_induction (P := fun t => t.content = none) (length_vacant r) ?_ rfl h
  intro t u entry hentry hplaced ht
  rcases hplaced.content_eq with heq | ⟨-, hname⟩
  · rw [heq, ht]
  · exact absurd (List.mem_map.2 ⟨entry, hentry, hname⟩) hnone

/-- The first sequence is the content, and the other values close up. -/
theorem takeContent_append {before after : List Argument} {items : List Element} (hopen : s.content = none)
    (hc : r.isContainer = true) (hbefore : ∀ v ∈ before, v.items? = none) :
    takeContent r s (before ++ .sequence items :: after) = ({ s with content := some items }, before ++ after) := by
  unfold takeContent
  rw [hopen, hc, firstSequence_append hbefore]

end Slots

namespace Node

/-- The first sequence moved to another place at which it is the first. -/
theorem ofArguments_moved {r : Rule} {named : List (String × Argument)} {before after before' after' : List Argument}
    {items : List Element} (hc : r.isContainer = true) (hnone : Rule.contentSlot ∉ named.map Prod.fst)
    (hbefore : ∀ v ∈ before, v.items? = none) (hbefore' : ∀ v ∈ before', v.items? = none)
    (hothers : before ++ after = before' ++ after') :
    ofArguments r ⟨before ++ .sequence items :: after, named⟩ =
      ofArguments r ⟨before' ++ .sequence items :: after', named⟩ := by
  unfold ofArguments
  dsimp only
  cases hnamed : Slots.bindAll r (Slots.vacant r) named with
  | error e => rfl
  | ok s =>
    have hopen := Slots.content_of_bindAll hnone hnamed
    have hsame : s.bindPositional r (before ++ .sequence items :: after) =
        s.bindPositional r (before' ++ .sequence items :: after') := by
      unfold Slots.bindPositional
      rw [Slots.takeContent_append hopen hc hbefore, Slots.takeContent_append hopen hc hbefore', hothers]
    rw [ok_bind, ok_bind, hsame]

theorem ofArguments_perm {r : Rule} {positional : List Argument} {named named' : List (String × Argument)} {n : Node}
    (hperm : named.Perm named') (h : ofArguments r ⟨positional, named⟩ = .ok n) :
    ofArguments r ⟨positional, named'⟩ = .ok n := by
  obtain ⟨s, hnamed, hrest⟩ := bind_eq_ok_iff.1 h
  exact bind_eq_ok_iff.2 ⟨s, Slots.bindAll_perm hperm (Slots.length_vacant r) hnamed, hrest⟩

/-- **Where the order of arguments does not matter**, whatever the rule: without a named content, the first sequence of
those given to a container may stand at any place at which it is the first, and the node or the error is the same; and
named values may come in any order, for the same node. -/
theorem argument_order_irrelevant (r : Rule) (named : List (String × Argument)) :
    (r.isContainer = true → Rule.contentSlot ∉ named.map Prod.fst →
      ∀ (items : List Element) (before after before' after' : List Argument),
        (∀ v ∈ before, v.items? = none) → (∀ v ∈ before', v.items? = none) → before ++ after = before' ++ after' →
          ofArguments r ⟨before ++ .sequence items :: after, named⟩ =
            ofArguments r ⟨before' ++ .sequence items :: after', named⟩) ∧
    (∀ (positional : List Argument) (named' : List (String × Argument)), named.Perm named' → ∀ n,
      ofArguments r ⟨positional, named⟩ = .ok n ↔ ofArguments r ⟨positional, named'⟩ = .ok n) := by
  refine ⟨?_, ?_⟩
  · intro hc hnone items before after before' after' hbefore hbefore' hothers
    exact ofArguments_moved hc hnone hbefore hbefore' hothers
  · intro positional named' hperm n
    exact ⟨ofArguments_perm hperm, ofArguments_perm hperm.symm⟩

/-- The sequence in front of the value that it stood behind, and the position named before the parameter. -/
theorem argument_order_irrelevant_doubled :
    let n : Node := ⟨doubledRule, .up, [("part", .leaf (.signedInt 3)), ("part", .element (.comment "x"))],
      some [.text "dolce"]⟩
    let named := [("part", Argument.leaf (.signedInt 3)), (Rule.positionSlot, .position .up)]
    ofArguments doubledRule doubledArguments =
      ofArguments doubledRule ⟨[.sequence [.text "dolce"], .element (.comment "x"), .leaf (.string "up")],
        doubledArguments.named⟩ ∧
    ofArguments doubledRule ⟨[.sequence [.text "dolce"], .element (.comment "x")], named⟩ = .ok n ∧
    ofArguments doubledRule ⟨[.sequence [.text "dolce"], .element (.comment "x")], named.reverse⟩ = .ok n := by
  intro n named
  have hn : ofArguments doubledRule ⟨[.sequence [.text "dolce"], .element (.comment "x")], named⟩ = .ok n := rfl
  refine ⟨?_, hn, ((argument_order_irrelevant _ _).2 _ _ (List.reverse_perm named).symm n).1 hn⟩
  exact (argument_order_irrelevant doubledRule doubledArguments.named).1 (by decide) (by decide)
    [.text "dolce"] [.element (.comment "x")] [.leaf (.string "up")] [] [.element (.comment "x"), .leaf (.string "up")]
    (by simp [Argument.items?]) (by simp) rfl

end Node
end Partitura
