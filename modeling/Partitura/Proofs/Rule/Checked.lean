import Mathlib.Data.List.Nodup
import Partitura.Proofs.Outcome
import Partitura.Rule.Check
/-!
# Proofs.Rule.Checked — a well-formed rule has slots with names of their own

The check of a rule refuses a parameter that is called like one before it, or like a slot that the rule has besides its
parameters.  So of a rule that passes the check no two slots have the same name (`slotNames_nodup_of_check`), which is
all that binding arguments asks of it.
-/
namespace Partitura
namespace Rule

/-- The slots that a rule has besides its parameters. -/
def implicitSlots (r : Rule) : List String :=
  (if r.isAttachment then [positionSlot] else []) ++ (if r.isContainer then [contentSlot] else [])

variable {r : Rule}

/-- **The check, demand by demand.** -/
theorem check_eq (r : Rule) : r.check =
    demand (isElementName r.name.toList) (.invalidName r.name) >>= fun _ =>
      demand (r.tag.toList.all isTagChar) (.invalidTag r.name r.tag) >>= fun _ =>
        r.checkParameters [] r.parameters >>= fun _ =>
          r.checkDelimiter r.opening >>= fun _ => r.checkDelimiter r.closing := by
  unfold check
  cases isElementName r.name.toList <;> cases r.tag.toList.all isTagChar <;> rfl

theorem checkParameters_cons (seen : List String) (p : Parameter) (ps : List Parameter) :
    r.checkParameters seen (p :: ps) =
      demand (isParameterName p.name.toList) (.invalidParameterName r.name p.name) >>= fun _ =>
        demand (!r.reserves p.name) (.reservedParameter r.name p.name) >>= fun _ =>
          demand (!seen.contains p.name) (.duplicateParameter r.name p.name) >>= fun _ =>
            r.checkParameters (p.name :: seen) ps := by
  rw [checkParameters]
  cases isParameterName p.name.toList <;> cases r.reserves p.name <;> cases seen.contains p.name <;> rfl

theorem checkDelimiter_eq (delimiter : String) : r.checkDelimiter delimiter =
    demand (!delimiter.toList.any fun c => c == '\n' || c == '\r') (.invalidDelimiter r.name delimiter) := by
  rw [checkDelimiter]
  cases delimiter.toList.any fun c => c == '\n' || c == '\r' <;> rfl

/-- **The parameters pass** if their names are identifiers, none of them reserved, and none is repeated. -/
theorem checkParameters_eq_ok_iff : ∀ (seen : List String) (ps : List Parameter),
    r.checkParameters seen ps = .ok () ↔
      (∀ p ∈ ps, isParameterName p.name.toList = true ∧ r.reserves p.name = false ∧ p.name ∉ seen) ∧
        (ps.map (·.name)).Nodup
  | seen, [] => by simp [checkParameters]
  | seen, p :: ps => by
    -- What the rest may not be called grows by this name, so this name may not be called again.
    have hrest : (∀ q ∈ ps, isParameterName q.name.toList = true ∧ r.reserves q.name = false ∧ q.name ∉ p.name :: seen) ↔
        (∀ q ∈ ps, isParameterName q.name.toList = true ∧ r.reserves q.name = false ∧ q.name ∉ seen) ∧
          p.name ∉ ps.map (·.name) := by
      rw [List.mem_map, not_exists, ← forall_and]
      refine forall_congr' fun q => ?_
      rw [List.mem_cons, not_or]
      grind
    rw [checkParameters_cons, List.forall_mem_cons, List.map_cons, List.nodup_cons]
    simp only [check_bind_eq_ok_iff, demand_eq_ok_iff, checkParameters_eq_ok_iff (p.name :: seen) ps, hrest,
      Bool.not_eq_true', List.contains_eq_mem, decide_eq_false_iff_not]
    grind

theorem check_eq_ok_iff : r.check = .ok () ↔
    isElementName r.name.toList = true ∧ r.tag.toList.all isTagChar = true ∧
      r.checkParameters [] r.parameters = .ok () ∧ r.checkDelimiter r.opening = .ok () ∧
        r.checkDelimiter r.closing = .ok () := by
  simp only [check_eq, check_bind_eq_ok_iff, demand_eq_ok_iff]

theorem reserves_iff {name : String} : r.reserves name = true ↔ name ∈ r.implicitSlots := by
  rw [reserves, implicitSlots]
  cases r.isAttachment <;> cases r.isContainer <;> simp

/-- **Slots have names of their own** if the parameters do, and none is called like another slot of the rule. -/
theorem slotNames_nodup_iff : r.slotNames.Nodup ↔
    (r.parameters.map (·.name)).Nodup ∧ ∀ p ∈ r.parameters, p.name ∉ r.implicitSlots := by
  have himplicit : r.implicitSlots.Nodup := by
    rw [implicitSlots]
    cases r.isAttachment <;> cases r.isContainer <;> decide
  rw [slotNames, List.append_assoc, ← implicitSlots, List.nodup_append]
  simp only [himplicit, true_and, List.forall_mem_map]
  refine and_congr_right fun _ => forall₂_congr fun p _ => ?_
  exact ⟨fun h hmem => h p.name hmem rfl, fun h slot hslot heq => h (heq ▸ hslot)⟩

/-- **A well-formed rule has slots with names of their own.** -/
theorem slotNames_nodup_of_check (h : r.check = .ok ()) : r.slotNames.Nodup := by
  obtain ⟨-, -, hparameters, -⟩ := check_eq_ok_iff.1 h
  obtain ⟨hps, hnodup⟩ := (checkParameters_eq_ok_iff [] r.parameters).1 hparameters
  refine slotNames_nodup_iff.2 ⟨hnodup, fun p hp hmem => ?_⟩
  exact Bool.eq_false_iff.1 (hps p hp).2.1 (reserves_iff.2 hmem)

end Rule
end Partitura
