import Partitura.Proofs.Node.Changed
import Partitura.Proofs.Render.Lines
import Partitura.Proofs.Render.Parity
/-!
# Proofs.Render.Repetition — a phrase several times over

The copies of a child share its toggles.  If the children, rendered once, show every toggle an even number of times,
then each copy begins with counts that agree with those at first, and so it opens and closes its spans where the first
one does: all copies of a child give the same text (`Node.repeat_keeps_spans`).
-/
namespace Partitura

open Counters (Agree)

theorem getElem?_copies {α : Type} {xs : List α} {i : Nat} (hi : i < xs.length) : ∀ {times copy : Nat}, copy < times →
    (List.replicate times xs).flatten[copy * xs.length + i]? = xs[i]?
  | times + 1, 0, _ => by
    rw [List.replicate_succ, List.flatten_cons, Nat.zero_mul, Nat.zero_add, List.getElem?_append_left hi]
  | times + 1, copy + 1, h => by
    have hplace : (copy + 1) * xs.length + i = xs.length + (copy * xs.length + i) := by
      rw [Nat.succ_mul]
      omega
    rw [List.replicate_succ, List.flatten_cons, hplace, List.getElem?_append_right (Nat.le_add_right _ _),
      Nat.add_sub_cancel_left]
    exact getElem?_copies hi (Nat.lt_of_succ_lt_succ h)

theorem copies_of_copies {α : Type} (xs : List α) (a b : Nat) :
    (List.replicate b (List.replicate a xs).flatten).flatten = (List.replicate (a * b) xs).flatten := by
  rw [← List.map_replicate, ← List.flatten_flatten, List.flatten_replicate_replicate, Nat.mul_comm]

/-! ## Copies of siblings -/

theorem renderSiblings_append : ∀ (es es' : List Element) (indent : Nat) (c : Counters),
    renderSiblings (es ++ es') indent c =
      let first := renderSiblings es indent c
      let second := renderSiblings es' indent first.2
      (first.1 ++ second.1, second.2)
  | [], _, _, _ => rfl
  | e :: es, es', indent, c => by
    rw [List.cons_append, renderSiblings_cons, renderSiblings_cons, renderSiblings_append es es']
    rfl

/-- **Every copy is rendered as the first one**, for it begins with counts that agree with those at first. -/
theorem renderSiblings_copies {es : List Element} {indent : Nat} {c : Counters}
    (honce : Agree (idsOfElements es) c (renderSiblings es indent c).2) (times : Nat) :
    ∀ {c' : Counters}, Agree (idsOfElements es) c c' →
      (renderSiblings (List.replicate times es).flatten indent c').1 =
        (List.replicate times (renderSiblings es indent c).1).flatten := by
  induction times with
  | zero => exact fun _ => rfl
  | succ times ih =>
    intro c' h
    have halike := renderSiblings_alike es indent h
    have hnext : Agree (idsOfElements es) c (renderSiblings es indent c').2 := honce.trans (h.after halike)
    rw [List.replicate_succ, List.flatten_cons, renderSiblings_append, List.replicate_succ, List.flatten_cons, halike.1]
    dsimp only
    rw [ih hnext, halike.1]

namespace Node

/-- **What each child gives to the text of a node** at a level, from the counts that the rendering begins with. -/
def contributions (n : Node) (indent : Nat) (c : Counters) : List Layout.Sibling :=
  let children := n.children.getD []
  (renderSiblings children (Layout.childIndent indent children.length) (renderParameters n.parameters indent c).2).1

theorem render_contributions {n : Node} {children : List Element} (hn : n.children = some children) (indent : Nat)
    (c : Counters) :
    (n.render indent c).1 =
      Layout.container ((n.position.marker ++ n.rule.tag) :: (renderParameters n.parameters indent c).1) n.rule.opening
        n.rule.closing indent (n.contributions indent c) := by
  obtain ⟨r, p, vs, _⟩ := n
  cases hn
  rfl

theorem repeatChildren_eq {n : Node} {children : List Element} (hn : n.children = some children) (times : Nat) :
    n.repeatChildren times = .ok (n.withChildren (List.replicate times children).flatten) := by
  rw [repeatChildren, elements_eq_ok_iff.2 hn]
  rfl

/-- What copies of the children give to the text is so many copies of what one gives.  Parameters without a toggle leave
the counts as they are, so the first copy begins with the counts of the whole. -/
theorem contributions_copies {n : Node} {children : List Element} {level : Nat} {c : Counters}
    (hstill : togglesOfValues n.parameters = [])
    (heven : ∀ id, Even ((renderSiblings children level c).2 id - c id)) (times indent : Nat) :
    ∃ inner, (n.withChildren (List.replicate times children).flatten).contributions indent c =
      (List.replicate times (renderSiblings children inner c).1).flatten := by
  have hbefore : (renderParameters n.parameters indent c).2 = c := by rw [renderParameters_still _ indent c c hstill]
  generalize hlevel : Layout.childIndent indent (List.replicate times children).flatten.length = inner
  have hcontributions : (n.withChildren (List.replicate times children).flatten).contributions indent c =
      (renderSiblings (List.replicate times children).flatten inner c).1 := by
    dsimp only [contributions, withChildren, Option.getD_some]
    rw [hbefore, hlevel]
  have honce : Agree (idsOfElements children) c (renderSiblings children inner c).2 := by
    apply (renderSiblings_alike children inner (.refl _ c)).agree_of_even
    intro id _
    rw [renderSiblings_counts inner level c children]
    exact heven id
  exact ⟨inner, by rw [hcontributions, renderSiblings_copies honce times (.refl _ c)]⟩

/-- **Repeating a phrase keeps its spans paired.**  A container repeated some times over has so many copies of its
children, in their order.  Where the children, rendered once, show every toggle an even number of times and the
parameters hold none, every copy of a child gives the text that the first one gives, at every level.  Repeating twice
is repeating as often as the two together. -/
theorem repeat_keeps_spans {n : Node} {children : List Element} (hn : n.children = some children) :
    (∀ times, ∃ copies, n.repeatChildren times = .ok (n.withChildren copies) ∧
      copies.length = times * children.length ∧
      (∀ copy < times, ∀ i < children.length, copies[copy * children.length + i]? = children[i]?) ∧
      (togglesOfValues n.parameters = [] → ∀ (level : Nat) (c : Counters),
        (∀ id, Even ((renderSiblings children level c).2 id - c id)) → ∀ indent,
          let given := (n.withChildren copies).contributions indent c
          ((n.withChildren copies).render indent c).1 =
            Layout.container ((n.position.marker ++ n.rule.tag) :: (renderParameters n.parameters indent c).1)
              n.rule.opening n.rule.closing indent given ∧
          ∀ copy < times, ∀ i < children.length,
            ∃ s, given[i]? = some s ∧ given[copy * children.length + i]? = some s)) ∧
    ∀ a b, (n.repeatChildren a >>= fun n' => n'.repeatChildren b) = n.repeatChildren (a * b) := by
  refine ⟨fun times => ⟨(List.replicate times children).flatten, repeatChildren_eq hn times, ?_, ?_, ?_⟩, fun a b => ?_⟩
  · simp
  · exact fun copy hcopy i hi => getElem?_copies hi hcopy
  · intro hstill level c heven indent given
    refine ⟨render_contributions rfl indent c, ?_⟩
    obtain ⟨inner, hgiven⟩ := contributions_copies hstill heven times indent
    intro copy hcopy i hi
    have hi' : i < (renderSiblings children inner c).1.length := by rwa [length_renderSiblings]
    have hfirst : given[i]? = (renderSiblings children inner c).1[i]? := by
      have hat := getElem?_copies hi' (Nat.zero_lt_of_lt hcopy)
      rwa [Nat.zero_mul, Nat.zero_add, ← hgiven] at hat
    have hlater := getElem?_copies hi' hcopy
    rw [length_renderSiblings, ← hgiven] at hlater
    exact ⟨_, hfirst.trans (List.getElem?_eq_getElem hi'), hlater.trans (List.getElem?_eq_getElem hi')⟩
  · rw [repeatChildren_eq hn a, ok_bind, repeatChildren_eq rfl b, copies_of_copies, repeatChildren_eq hn (a * b)]
    rfl

/-- Two rests under a slur and a hairpin, which ends at a node. -/
def spannedRests : Node where
  rule := Rule.container "phrase" "\\phrase" (.single .music) (.single .music)
  position := .unset
  parameters := []
  children := some [
    .tone ⟨⟨.rest, "2", isDuration_half, none, false⟩, [.toggle (.slur 1), .toggle hairpin]⟩,
    .tone ⟨⟨.rest, "2", isDuration_half, none, false⟩, [.toggle (.slur 1), .toggle hairpin]⟩]
where
  hairpin : Toggle :=
    ⟨2, "\\<", .node ⟨{ Rule.command "f" "\\f" (.ofList [.attachment]) with inline := true }, .unset, [], none⟩⟩

theorem repeat_keeps_spans_rests :
    togglesOfValues spannedRests.parameters = [] ∧
    (∀ id, Even ((renderSiblings (spannedRests.children.getD []) 0 .start).2 id - Counters.start id)) ∧
    (∃ copies, spannedRests.repeatChildren 3 = .ok (spannedRests.withChildren copies) ∧ ∀ copy < 3,
      ((spannedRests.withChildren copies).contributions 0 .start)[copy * 2 + 1]? = some ⟨true, "r2)\\f"⟩) ∧
    (spannedRests.repeatChildren 2 >>= fun n => n.repeatChildren 3) = spannedRests.repeatChildren 6 := by
  have heven : ∀ id, Even ((renderSiblings (spannedRests.children.getD []) 0 .start).2 id - Counters.start id) := by
    intro id
    change Even (((((Counters.start.advance 1).advance 2).advance 1).advance 2) id - 0)
    dsimp only [Counters.advance, Counters.start]
    by_cases h1 : id = 1
    · subst h1
      decide
    · by_cases h2 : id = 2
      · subst h2
        decide
      · rw [if_neg h2, if_neg h1, if_neg h2, if_neg h1]
        decide
  obtain ⟨hrepeat, htwice⟩ := repeat_keeps_spans (n := spannedRests) rfl
  obtain ⟨copies, hcopies, -, -, hspans⟩ := hrepeat 3
  refine ⟨rfl, heven, ⟨copies, hcopies, fun copy hcopy => ?_⟩, htwice 2 3⟩
  obtain ⟨-, hgiven⟩ := hspans rfl 0 .start heven 0
  obtain ⟨s, hfirst, hlater⟩ := hgiven copy hcopy 1 (by decide)
  cases hcopies
  refine hlater.trans (hfirst.symm.trans ?_)
  rfl

end Node
end Partitura
