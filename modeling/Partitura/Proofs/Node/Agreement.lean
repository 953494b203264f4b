import Partitura.Proofs.Node.Content
import Partitura.Proofs.Node.Naming
import Partitura.Proofs.Node.Reachable
import Partitura.Proofs.Rule.Checked
/-!
# Proofs.Node.Agreement — changing a node is building another one

A change makes the checks that building makes, and puts what it is given where building would put it.  So a node that
was built and then changed is the node that is built from the changed arguments, and where one is refused the other is,
for the same reason.
-/
namespace Partitura
namespace Node

/-- **Changing and building agree**, for every well-formed rule and a node built with it: a value for an unbound
parameter is a value by its name; children at the end, together or one by one, are more content, however the content
was given and is given now; and a position for an attachment that was given none is a position by name. -/
theorem change_agrees_with_building {r : Rule} {args : Arguments} {n : Node} (hr : r.check = .ok ())
    (hn : Node.ofArguments r args = .ok n) :
    (∀ p ∈ r.parameters, p.name ∉ n.parameters.map Prod.fst → ∀ value,
      n.setParameter p.name value = Node.ofArguments r (args.naming p.name value)) ∧
    (r.isContainer = true → ∀ more : List Element,
      (∀ args', args.SameButContent args' (n.children.getD [] ++ more) → n.extend more = Node.ofArguments r args') ∧
      more.foldlM append n = n.extend more) ∧
    (r.isAttachment = true → Binding.positionValue? r args = none → ∀ q, ∃ n',
      n.setPosition q = .ok n' ∧ Node.ofArguments r (args.naming Rule.positionSlot (.position q)) = .ok n') := by
  have hs := Rule.slotNames_nodup_of_check hr
  obtain ⟨hf, rfl⟩ := (Binding.ofArguments_eq_ok_iff hs).1 hn
  refine ⟨?_, ?_, ?_⟩
  · intro p hp hunbound value
    exact Binding.setParameter_node hs hp hf hunbound value
  · intro hc more
    have ho : (Binding.node r args).elements = .ok (Binding.content r args) :=
      elements_eq_ok_iff.2 (Binding.children_node hc)
    exact ⟨fun args' h => Binding.extend_node hs hc hf h, foldlM_append more ho⟩
  · intro ha hnone q
    exact ⟨_, Binding.setPosition_node hs ha hnone hf q⟩

/-- An optional parameter before the one that is bound, a child that is refused, and a position. -/
theorem change_agrees_with_building_phrase :
    phraseRule.check = .ok () ∧ Node.ofArguments phraseRule phraseArguments = .ok phrase ∧
    phrase.setParameter "depth" (.leaf (.signedInt 2)) =
      Node.ofArguments phraseRule (phraseArguments.naming "depth" (.leaf (.signedInt 2))) ∧
    phrase.extend [.comment "refused"] = Node.ofArguments phraseRule
      ⟨[], phraseArguments.named ++ [(Rule.contentSlot, .sequence [.tone slurredRest, .comment "refused"])]⟩ ∧
    ∃ n', phrase.setPosition .up = .ok n' ∧
      Node.ofArguments phraseRule (phraseArguments.naming Rule.positionSlot (.position .up)) = .ok n' := by
  have hr : phraseRule.check = .ok () := by decide +kernel
  have hn : Node.ofArguments phraseRule phraseArguments = .ok phrase := rfl
  obtain ⟨hparameter, hcontent, hposition⟩ := change_agrees_with_building hr hn
  refine ⟨hr, hn, ?_, ?_, hposition (by decide) rfl .up⟩
  · exact hparameter ⟨"depth", .leaf .signedInt, true⟩ (by decide) (by decide) _
  · exact (hcontent (by decide) [.comment "refused"]).1 _ (phraseArguments.sameButContent_named _)

end Node
end Partitura
