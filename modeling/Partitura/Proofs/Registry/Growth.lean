import Mathlib.Data.List.Perm.Basic
import Partitura.Proofs.Registry.Authority
/-!
# Proofs.Registry.Growth — rules that enter together

Whether several rules may enter one after the other does not hang on their order: all of them are well-formed, and no
name among them or among those that are there is repeated (`Admits`).  A step takes rules in if it answers exactly where
the registry admits the rules that it gives; a chain of such steps is one (`TakesIn.chain`), and so it answers in every
order of its items or in none (`TakesIn.exists_of_perm`).
-/
namespace Partitura
namespace Registry

/-- **Rules that may enter together**, in whatever order. -/
structure Admits (g : Registry) (rules : List Rule) : Prop where
  wellFormed : ∀ r ∈ rules, r.check = .ok ()
  distinct : (g.names ++ rules.map (·.name)).Nodup

theorem rules_addAll : ∀ (rules : List Rule) (g : Registry), (g.addAll rules).rules = g.rules ++ rules
  | [], g => (List.append_nil g.rules).symm
  | r :: rules, g => (rules_addAll rules (g.add r)).trans (List.append_cons g.rules r rules).symm

theorem names_addAll (g : Registry) (rules : List Rule) :
    (g.addAll rules).names = g.names ++ rules.map (·.name) := by
  rw [names, rules_addAll, List.map_append, names]

theorem addAll_append (g : Registry) (rules more : List Rule) :
    g.addAll (rules ++ more) = (g.addAll rules).addAll more := List.foldl_append

theorem admits_append {g : Registry} {rules more : List Rule} :
    g.Admits (rules ++ more) ↔ g.Admits rules ∧ (g.addAll rules).Admits more := by
  have hnames : g.names ++ (rules ++ more).map (·.name) = (g.addAll rules).names ++ more.map (·.name) := by
    rw [names_addAll, List.map_append, List.append_assoc]
  constructor
  · rintro ⟨hwell, hdistinct⟩
    rw [List.forall_mem_append] at hwell
    rw [hnames] at hdistinct
    exact ⟨⟨hwell.1, names_addAll g rules ▸ (List.nodup_append.1 hdistinct).1⟩, hwell.2, hdistinct⟩
  · rintro ⟨⟨hrules, -⟩, hmore, hdistinct⟩
    exact ⟨List.forall_mem_append.2 ⟨hrules, hmore⟩, hnames ▸ hdistinct⟩

theorem admits_singleton {g : Registry} (h : g.Indexed) {r : Rule} :
    g.Admits [r] ↔ r.check = .ok () ∧ r.name ∉ g.names := by
  constructor
  · rintro ⟨hwell, hdistinct⟩
    rw [List.map_singleton, ← List.concat_eq_append, List.nodup_concat] at hdistinct
    exact ⟨hwell r List.mem_cons_self, hdistinct.1⟩
  · rintro ⟨hcheck, hfree⟩
    refine ⟨List.forall_mem_singleton.2 hcheck, ?_⟩
    rw [List.map_singleton, ← List.concat_eq_append, List.nodup_concat]
    exact ⟨hfree, h.distinct⟩

theorem Admits.of_perm {g : Registry} {rules rules' : List Rule} (h : g.Admits rules) (hperm : rules.Perm rules') :
    g.Admits rules' where
  wellFormed r hr := h.wellFormed r (hperm.mem_iff.2 hr)
  distinct := ((hperm.map (·.name)).append_left g.names).nodup_iff.1 h.distinct

theorem indexed_addAll : ∀ {rules : List Rule} {g : Registry}, g.Indexed → g.Admits rules → (g.addAll rules).Indexed
  | [], _, h, _ => h
  | r :: rules, g, h, hadmits => by
    obtain ⟨hfirst, hrest⟩ := admits_append.1 (List.singleton_append ▸ hadmits : g.Admits ([r] ++ rules))
    have hrules : ((g.add r).addAll rules).Indexed := indexed_addAll (h.add ((admits_singleton h).1 hfirst).2) hrest
    exact hrules

/-! ## The same rules in another order -/

/-- **Registries that differ in the order of their rules only**: a name means the same in both. -/
structure SameRules (g g' : Registry) : Prop where
  rules : g.rules.Perm g'.rules
  size : g.size = g'.size
  lookup : ∀ name, g.lookup name = g'.lookup name
  contains : ∀ name, g.contains name = g'.contains name
  node : ∀ name args, g.node name args = g'.node name args

theorem Indexed.lookup_eq_of_perm {g g' : Registry} (h : g.Indexed) (h' : g'.Indexed) (hperm : g.rules.Perm g'.rules)
    (name : String) : g.lookup name = g'.lookup name := by
  have hfind : g.find? name = g'.find? name := by
    apply Option.ext
    intro r
    rw [h.find?_eq_some_iff, h'.find?_eq_some_iff, hperm.mem_iff]
  rw [Registry.lookup, Registry.lookup, hfind]

theorem Indexed.sameRules {g g' : Registry} (h : g.Indexed) (h' : g'.Indexed) (hperm : g.rules.Perm g'.rules) :
    g.SameRules g' where
  rules := hperm
  size := hperm.length_eq
  lookup := h.lookup_eq_of_perm h' hperm
  contains name := by
    rw [Bool.eq_iff_iff, h.contains_iff, h'.contains_iff]
    exact (hperm.map (·.name)).mem_iff
  node name args := by rw [Registry.node, Registry.node, h.lookup_eq_of_perm h' hperm]

/-! ## Steps that take rules in -/

/-- **A step takes rules in**, or fails: it answers exactly where the registry admits the rules that it gives. -/
def TakesIn {ε : Type} (step : Registry → Except ε Registry) (Gives : List Rule → Prop) : Prop :=
  ∀ g g' : Registry, g.Indexed → (step g = .ok g' ↔ ∃ rules, Gives rules ∧ g.Admits rules ∧ g' = g.addAll rules)

theorem takesIn_register (r : Rule) : TakesIn (·.register r) (· = [r]) := by
  intro g g' h
  rw [h.register_eq_ok_iff]
  constructor
  · rintro ⟨hcheck, hfree, rfl⟩
    exact ⟨[r], rfl, (admits_singleton h).2 ⟨hcheck, hfree⟩, rfl⟩
  · rintro ⟨-, rfl, hadmits, rfl⟩
    obtain ⟨hcheck, hfree⟩ := (admits_singleton h).1 hadmits
    exact ⟨hcheck, hfree, rfl⟩

variable {ε α : Type} {step : Registry → α → Except ε Registry} {Gives : α → List Rule → Prop}

/-- **A chain of steps that take rules in** takes in all of their rules. -/
theorem TakesIn.chain (hstep : ∀ item, TakesIn (step · item) (Gives item)) : ∀ items : List α,
    TakesIn (fun g => items.foldlM step g) fun rules =>
      ∃ lists, List.Forall₂ Gives items lists ∧ rules = lists.flatten
  | [], g, g', h => by
    have hnone : g.Admits [] := ⟨nofun, by simpa using h.distinct⟩
    simp [addAll, hnone, eq_comm]
  | item :: items, g, g', h => by
    dsimp only
    rw [List.foldlM_cons, bind_eq_ok_iff]
    constructor
    · rintro ⟨reached, hitem, hrest⟩
      obtain ⟨rules, hgives, hadmits, rfl⟩ := (hstep item g reached h).1 hitem
      obtain ⟨-, ⟨lists, hlists, rfl⟩, hmore, rfl⟩ :=
        (chain hstep items _ g' (indexed_addAll h hadmits)).1 hrest
      refine ⟨_, ⟨rules :: lists, .cons hgives hlists, rfl⟩, admits_append.2 ⟨hadmits, hmore⟩, ?_⟩
      exact (addAll_append g rules lists.flatten).symm
    -- What admits all rules admits those of the first item, and once they are in, the others.
    · rintro ⟨-, ⟨given, hgiven, rfl⟩, hall, rfl⟩
      obtain ⟨rules, lists, hgives, hlists, rfl⟩ := List.forall₂_cons_left_iff.1 hgiven
      obtain ⟨hadmits, hmore⟩ := admits_append.1 hall
      refine ⟨_, (hstep item g _ h).2 ⟨rules, hgives, hadmits, rfl⟩, ?_⟩
      refine (chain hstep items _ _ (indexed_addAll h hadmits)).2 ⟨_, ⟨lists, hlists, rfl⟩, hmore, ?_⟩
      exact addAll_append g rules lists.flatten

/-- **A chain of such steps answers in any order** of its items if it does in one, with the same rules. -/
theorem TakesIn.exists_of_perm (hstep : ∀ item, TakesIn (step · item) (Gives item)) {items items' : List α}
    (hperm : items.Perm items') {g g₁ : Registry} (h : g.Indexed) (hok : items.foldlM step g = .ok g₁) :
    ∃ g₂, items'.foldlM step g = .ok g₂ ∧ g₁.SameRules g₂ := by
  obtain ⟨-, ⟨lists, hlists, rfl⟩, hadmits, rfl⟩ := (chain hstep items g g₁ h).1 hok
  obtain ⟨lists', hlists', hlistsPerm⟩ := List.perm_comp_forall₂ hperm.symm hlists
  have hrules : lists.flatten.Perm lists'.flatten := hlistsPerm.symm.flatten
  have hadmits' := hadmits.of_perm hrules
  refine ⟨_, (chain hstep items' g _ h).2 ⟨_, ⟨lists', hlists', rfl⟩, hadmits', rfl⟩, ?_⟩
  refine (indexed_addAll h hadmits).sameRules (indexed_addAll h hadmits') ?_
  rw [rules_addAll, rules_addAll]
  exact hrules.append_left g.rules

end Registry
end Partitura
