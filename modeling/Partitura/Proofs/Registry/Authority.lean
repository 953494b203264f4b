import Partitura.Proofs.Registry.Run
/-!
# Proofs.Registry.Authority — a name means one rule

While the index is in step with the rules, looking a name up finds exactly what going through the rules would find
(`Indexed.find?_eq_some_iff`), so a name has one rule or none.  A refused call changes nothing; an accepted one puts its
rule behind the others and leaves every other name what it was.  Both hold on every run, as the index is in step on every
run (`authoritative_on_run`).
-/
namespace Partitura
namespace Registry

/-- The rules among several that are accepted, when they are registered one after the other. -/
def accepted : Registry → List Rule → List Rule
  | _, [] => []
  | g, r :: rules =>
    match g.register r with
    | .ok g' => r :: accepted g' rules
    | .error _ => accepted g rules

/-- **What a name means**: one rule has it, and every look-up answers with that rule; or none has it, and none answers. -/
def Means (g : Registry) (name : String) : Prop :=
  (∃ r ∈ g.rules, r.name = name ∧ g.names.count name = 1 ∧
    g.find? name = some r ∧ g.lookup name = .ok r ∧ g.contains name = true) ∨
  (g.names.count name = 0 ∧
    g.find? name = none ∧ g.lookup name = .error (.unknownElement name) ∧ g.contains name = false)

/-- The first fault of a rule comes before the question whether its name is free. -/
theorem Indexed.register_eq_error_iff {g : Registry} (h : g.Indexed) {r : Rule} {e : RuleError} :
    g.register r = .error e ↔
      r.check = .error e ∨ (r.check = .ok () ∧ r.name ∈ g.names ∧ e = .duplicateElement r.name) := by
  unfold register
  cases hcheck : r.check with
  | error e' => simp
  | ok checked =>
    rw [ok_bind, ← h.contains_iff]
    cases g.contains r.name <;> simp [eq_comm]

namespace Indexed

variable {g : Registry} (h : g.Indexed)
include h

/-- **Looking a name up** finds the rule that has it. -/
theorem find?_eq_some_iff {name : String} {r : Rule} : g.find? name = some r ↔ r ∈ g.rules ∧ r.name = name := by
  have hnames : ∀ i, g.rules[i]? = some r → g.names[i]? = some r.name := fun i hi => by
    rw [names, List.getElem?_map, hi, Option.map_some]
  constructor
  · intro hfound
    obtain ⟨i, hplace, hi⟩ := Option.bind_eq_some_iff.1 hfound
    have hname := ((h name i).1 hplace).symm.trans (hnames i hi)
    exact ⟨List.mem_of_getElem? hi, (Option.some.inj hname).symm⟩
  · rintro ⟨hmem, rfl⟩
    obtain ⟨i, hi⟩ := List.mem_iff_getElem?.1 hmem
    rw [find?, (h r.name i).2 (hnames i hi), Option.bind_some, hi]

theorem lookup_eq_ok_iff {name : String} {r : Rule} : g.lookup name = .ok r ↔ r ∈ g.rules ∧ r.name = name := by
  rw [← h.find?_eq_some_iff, lookup]
  cases g.find? name <;> simp

theorem means (name : String) : g.Means name := by
  by_cases hmem : name ∈ g.names
  · obtain ⟨r, hr, hname⟩ := List.mem_map.1 hmem
    exact .inl ⟨r, hr, hname, List.count_eq_one_of_mem h.distinct hmem, h.find?_eq_some_iff.2 ⟨hr, hname⟩,
      h.lookup_eq_ok_iff.2 ⟨hr, hname⟩, h.contains_iff.2 hmem⟩
  · have hnone : g.find? name = none := by
      refine Option.eq_none_iff_forall_ne_some.2 fun r hfound => hmem ?_
      obtain ⟨hr, hname⟩ := h.find?_eq_some_iff.1 hfound
      exact List.mem_map.2 ⟨r, hr, hname⟩
    have hcontains : g.contains name = false := by
      rw [Bool.eq_false_iff, ne_eq, h.contains_iff]
      exact hmem
    exact .inr ⟨List.count_eq_zero.2 hmem, hnone, by rw [lookup, hnone], hcontains⟩

section Added

variable {r : Rule} (hfree : r.name ∉ g.names)
include hfree

theorem find?_add_of_ne {name : String} (hne : name ≠ r.name) : (g.add r).find? name = g.find? name := by
  apply Option.ext
  intro r'
  rw [(h.add hfree).find?_eq_some_iff, h.find?_eq_some_iff, Registry.add, List.mem_append, List.mem_singleton]
  constructor
  · rintro ⟨hmem | rfl, hname⟩
    · exact ⟨hmem, hname⟩
    · exact absurd hname.symm hne
  · rintro ⟨hmem, hname⟩
    exact ⟨.inl hmem, hname⟩

theorem lookup_add_of_ne {name : String} (hne : name ≠ r.name) : (g.add r).lookup name = g.lookup name := by
  rw [lookup, lookup, h.find?_add_of_ne hfree hne]

theorem contains_add_of_ne {name : String} (hne : name ≠ r.name) : (g.add r).contains name = g.contains name := by
  rw [Bool.eq_iff_iff, (h.add hfree).contains_iff, h.contains_iff, names_add, List.mem_append, List.mem_singleton]
  exact or_iff_left hne

theorem node_add_of_ne {name : String} (hne : name ≠ r.name) (args : Arguments) :
    (g.add r).node name args = g.node name args := by
  rw [node, node, h.lookup_add_of_ne hfree hne]

theorem lookup_add : (g.add r).lookup r.name = .ok r :=
  (h.add hfree).lookup_eq_ok_iff.2 ⟨List.mem_append_right _ (List.mem_singleton_self r), rfl⟩

end Added

end Indexed

/-- **Rules stand in the order of the calls that were accepted.** -/
theorem rules_afterAll : ∀ (calls : List Rule) {g : Registry}, g.Indexed →
    (g.afterAll (calls.map .rule)).rules = g.rules ++ g.accepted calls
  | [], g, _ => (List.append_nil g.rules).symm
  | r :: calls, g, h => by
    rw [List.map_cons, afterAll, List.foldl_cons, after, accepted]
    cases hr : g.register r with
    | error e => exact rules_afterAll calls h
    | ok g' =>
      obtain ⟨-, hfree, rfl⟩ := h.register_eq_ok_iff.1 hr
      have ih := rules_afterAll calls (h.add hfree)
      exact ih.trans (List.append_cons g.rules r _).symm

/-- **A registry is authoritative on every run** of calls, accepted or refused.  Its rules are well-formed and have names
of their own, a name means the one rule that has it, and the rules stand in the order in which they were accepted.  A
call is refused exactly for the first fault of its rule, or because the name is taken, and then changes nothing; an
accepted one puts the rule under its name, and every other name is left with what it meant and what it builds. -/
theorem authoritative_on_run (calls : List Rule) :
    let g := empty.afterAll (calls.map .rule)
    g.names.Nodup ∧ (∀ r ∈ g.rules, r.check = .ok ()) ∧ (∀ name, g.Means name) ∧
    g.names = (empty.accepted calls).map (·.name) ∧ g.rules = empty.accepted calls ∧
    ∀ r : Rule,
      (∀ e, g.register r = .error e ↔
        r.check = .error e ∨ (r.check = .ok () ∧ r.name ∈ g.names ∧ e = .duplicateElement r.name)) ∧
      (∀ e, g.register r = .error e → g.after (.rule r) = g) ∧
      ∀ g', g.register r = .ok g' →
        g.after (.rule r) = g' ∧ g'.names = g.names ++ [r.name] ∧ g'.lookup r.name = .ok r ∧
        ∀ name, name ≠ r.name →
          g'.lookup name = g.lookup name ∧ g'.contains name = g.contains name ∧
          ∀ args, g'.node name args = g.node name args := by
  intro g
  have hsound : g.Sound := sound_afterAll _ sound_empty
  have h := hsound.indexed
  have hrules : g.rules = empty.accepted calls := rules_afterAll calls indexed_empty
  refine ⟨h.distinct, hsound.wellFormed, h.means, congrArg (List.map Rule.name) hrules, hrules, fun r => ?_⟩
  refine ⟨fun e => h.register_eq_error_iff, fun e he => by rw [after, he], fun g' hr => ?_⟩
  obtain ⟨-, hfree, rfl⟩ := h.register_eq_ok_iff.1 hr
  refine ⟨by rw [after, hr], names_add g r, h.lookup_add hfree, fun name hne => ?_⟩
  exact ⟨h.lookup_add_of_ne hfree hne, h.contains_add_of_ne hfree hne, h.node_add_of_ne hfree hne⟩

/-- A rule, another of its name, one that is at fault, and one more. -/
theorem authoritative_on_run_dynamics :
    let f := Rule.command "f" "\\f" .empty
    let p := Rule.command "p" "\\p" .empty
    let g := empty.afterAll ([f, .command "f" "\\ff" .empty, .command "2" "" .empty].map .rule)
    g.rules = [f] ∧ g.register (.command "f" "" .empty) = .error (.duplicateElement "f") ∧
    g.register p = .ok (g.add p) ∧ (g.add p).lookup "p" = .ok p ∧ (g.add p).lookup "f" = g.lookup "f" := by
  intro f p g
  obtain ⟨-, -, -, -, -, hcalls⟩ := authoritative_on_run [f, .command "f" "\\ff" .empty, .command "2" "" .empty]
  have hp : g.register p = .ok (g.add p) :=
    (sound_afterAll _ sound_empty).indexed.register_eq_ok_iff.2 ⟨by decide +kernel, by decide +kernel, rfl⟩
  obtain ⟨-, -, hlookup, hother⟩ := (hcalls p).2.2 _ hp
  refine ⟨by decide +kernel, ?_, hp, hlookup, (hother "f" (by decide)).1⟩
  exact ((hcalls _).1 _).2 (.inr ⟨by decide +kernel, by decide +kernel, rfl⟩)

end Registry
end Partitura
