import Mathlib.Data.List.Nodup
import Partitura.Catalog.Text
import Partitura.Proofs.Outcome
/-!
# Proofs.Registry.Run — calls on a registry, one after the other

A registry is asked to take a rule or a whole catalog.  A refused rule leaves it as it was, a refused catalog leaves
what stands before the refused definition.  On every run its rules are well-formed, and its index has the place of each
and nothing else (`Registry.sound_afterAll`).
-/
namespace Partitura

/-- **A call that may change a registry.** -/
inductive Registration where
  | rule (r : Rule)
  | catalog (c : Catalog) (origin : String)

namespace Registry

/-- **The registry after a call**, done or refused. -/
def after (g : Registry) : Registration → Registry
  | .rule r =>
    match g.register r with
    | .ok g => g
    | .error _ => g
  | .catalog c origin => (c.registration origin g).1

/-- The registry after several calls. -/
def afterAll (g : Registry) (calls : List Registration) : Registry := calls.foldl after g

/-- The registry with several more rules, one behind the other. -/
def addAll (g : Registry) (rules : List Rule) : Registry := rules.foldl add g

/-- **The index is in step with the rules**: it has the place of every name, and no other. -/
def Indexed (g : Registry) : Prop := ∀ (name : String) (i : Nat), g.places[name]? = some i ↔ g.names[i]? = some name

/-- **Well-formed rules, found by names of their own**, and nothing that is left of what was refused. -/
structure Sound (g : Registry) : Prop where
  wellFormed : ∀ r ∈ g.rules, r.check = .ok ()
  indexed : g.Indexed
  grown : empty.addAll g.rules = g

theorem length_names (g : Registry) : g.names.length = g.size := List.length_map _

theorem names_add (g : Registry) (r : Rule) : (g.add r).names = g.names ++ [r.name] := by
  rw [names, names, add, List.map_append, List.map_singleton]

namespace Indexed

variable {g : Registry} (h : g.Indexed)
include h

/-- **No name is repeated**, for the index has one place for it. -/
theorem distinct : g.names.Nodup := by
  rw [List.nodup_iff_getElem?_ne_getElem?]
  intro i j hij hj heq
  have hname : g.names[j]? = some g.names[j] := List.getElem?_eq_getElem hj
  have hi := (h _ i).2 (heq.trans hname)
  have hsame : i = j := Option.some.inj (hi.symm.trans ((h _ j).2 hname))
  omega

theorem contains_iff {name : String} : g.contains name = true ↔ name ∈ g.names := by
  rw [contains, Std.TreeMap.contains_eq_isSome_getElem?, Option.isSome_iff_exists, List.mem_iff_getElem?]
  exact exists_congr fun i => h name i

/-- A free name gets the place behind the others, and no other place moves. -/
theorem add {r : Rule} (hname : r.name ∉ g.names) : (g.add r).Indexed := by
  intro name i
  have hplace : (g.add r).places[name]? = if r.name = name then some g.names.length else g.places[name]? := by
    simp [Registry.add, names, Std.TreeMap.getElem?_insert]
  rw [hplace, names_add]
  -- Before the end, a place is as it was; the one at the end has the new name, which no other has.
  by_cases heq : r.name = name
  · subst heq
    rw [if_pos rfl, List.getElem?_append]
    split
    · rename_i hi
      have hno : g.names[i]? ≠ some r.name := fun hmem => hname (List.mem_of_getElem? hmem)
      simp only [Option.some.injEq, hno, iff_false]
      omega
    · rename_i hi
      rw [List.getElem?_singleton]
      simp only [Option.some.injEq, ite_eq_left_iff, reduceCtorEq, imp_false, Decidable.not_not]
      omega
  · rw [if_neg heq, h name i, List.getElem?_append]
    split
    · rfl
    · rename_i hi
      rw [List.getElem?_eq_none (Nat.le_of_not_lt hi), List.getElem?_singleton]
      simp [heq]

/-- **A rule enters** exactly if it is well-formed and its name is free, and then stands at the end. -/
theorem register_eq_ok_iff {g' : Registry} {r : Rule} :
    g.register r = .ok g' ↔ r.check = .ok () ∧ r.name ∉ g.names ∧ g' = g.add r := by
  unfold register
  rw [bind_eq_ok_iff]
  constructor
  · rintro ⟨⟨⟩, hcheck, hentered⟩
    by_cases hname : g.contains r.name = true
    · rw [if_pos hname] at hentered
      cases hentered
    · rw [if_neg hname] at hentered
      cases hentered
      exact ⟨hcheck, fun hmem => hname (h.contains_iff.2 hmem), rfl⟩
  · rintro ⟨hcheck, hname, rfl⟩
    rw [← h.contains_iff] at hname
    exact ⟨(), hcheck, by rw [if_neg hname]; rfl⟩

end Indexed

theorem indexed_empty : empty.Indexed := by
  intro name i
  simp [empty, names]

theorem sound_empty : empty.Sound := ⟨by simp [empty], indexed_empty, rfl⟩

theorem sound_register {g g' : Registry} {r : Rule} (h : g.Sound) (hr : g.register r = .ok g') : g'.Sound := by
  obtain ⟨hcheck, hname, rfl⟩ := h.indexed.register_eq_ok_iff.1 hr
  refine ⟨fun r' hr' => ?_, h.indexed.add hname, ?_⟩
  · rcases List.mem_append.1 hr' with hr' | hr'
    · exact h.wellFormed r' hr'
    · rw [List.mem_singleton.1 hr']
      exact hcheck
  · have hgrown : empty.addAll (g.rules ++ [r]) = (empty.addAll g.rules).add r := List.foldl_concat _ _ _ _
    exact hgrown.trans (congrArg (add · r) h.grown)

theorem sound_registerAll : ∀ (ds : List Definition) {g : Registry}, g.Sound → (Catalog.registerAll g ds).1.Sound
  | [], _, h => h
  | d :: ds, g, h => by
    rw [Catalog.registerAll]
    cases hd : d.toRule >>= g.register with
    | error e => exact h
    | ok g' =>
      obtain ⟨r, -, hr⟩ := bind_eq_ok_iff.1 hd
      exact sound_registerAll ds (sound_register h hr)

theorem sound_after {g : Registry} (h : g.Sound) : ∀ call : Registration, (g.after call).Sound
  | .rule r => by
    rw [after]
    cases hr : g.register r with
    | ok g' => exact sound_register h hr
    | error e => exact h
  | .catalog c origin => by
    have hreached : (c.registration origin g).1 = (Catalog.registerAll g c.elements).1 := by
      unfold Catalog.registration Catalog.registerInto
      split <;> rename_i heq <;> rw [heq]
    rw [after, hreached]
    exact sound_registerAll c.elements h

theorem sound_afterAll : ∀ (calls : List Registration) {g : Registry}, g.Sound → (g.afterAll calls).Sound
  | [], _, h => h
  | call :: calls, _, h => by
    rw [afterAll, List.foldl_cons]
    exact sound_afterAll calls (sound_after h call)

end Registry
end Partitura
