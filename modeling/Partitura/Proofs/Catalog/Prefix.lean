import Partitura.Proofs.Catalog.Conversion
import Partitura.Proofs.Registry.Growth
/-!
# Proofs.Catalog.Prefix — a catalog is taken in up to its first fault

A definition is refused for an unknown label, else for a fault of its rule, else because its name is taken: by the
registry, or by a definition before it.  A registry takes in the rules of the definitions before the first one that is
refused, and all of them if none is.  So one catalog behind another is one catalog with the definitions of both.
-/
namespace Partitura

/-- **Why a definition is refused** where these names are taken. -/
inductive Definition.RefusedFor (taken : List String) (d : Definition) : RuleError → Prop
  | conversion {e : RuleError} (h : d.toRule = .error e) : RefusedFor taken d e
  | validation {r : Rule} {e : RuleError} (hr : d.toRule = .ok r) (h : r.check = .error e) : RefusedFor taken d e
  | duplication {r : Rule} (hr : d.toRule = .ok r) (hcheck : r.check = .ok ()) (h : d.name ∈ taken) :
    RefusedFor taken d (.duplicateElement d.name)

theorem Definition.name_of_toRule {d : Definition} {r : Rule} (h : d.toRule = .ok r) : r.name = d.name :=
  congrArg Definition.name (ofRule_of_toRule h)

theorem Definition.names_of_toRule {ds : List Definition} {rules : List Rule} (h : ds.mapM toRule = .ok rules) :
    rules.map (·.name) = ds.map (·.name) :=
  map_of_mapM_eq_ok h fun _ _ _ => name_of_toRule

/-- **A definition is refused** by a registry where its names are taken. -/
theorem Definition.refused_iff {g : Registry} (h : g.Indexed) {d : Definition} {e : RuleError} :
    (d.toRule >>= g.register) = .error e ↔ d.RefusedFor g.names e := by
  simp only [bind_eq_error_iff, h.register_eq_error_iff]
  constructor
  · rintro (hconversion | ⟨r, hr, hvalidation | ⟨hcheck, htaken, rfl⟩⟩)
    · exact .conversion hconversion
    · exact .validation hr hvalidation
    · rw [name_of_toRule hr] at htaken ⊢
      exact .duplication hr hcheck htaken
  · rintro (hconversion | ⟨hr, hvalidation⟩ | ⟨hr, hcheck, htaken⟩)
    · exact .inl hconversion
    · exact .inr ⟨_, hr, .inl hvalidation⟩
    · rw [← name_of_toRule hr] at htaken ⊢
      exact .inr ⟨_, hr, .inr ⟨hcheck, htaken, rfl⟩⟩

/-- **A definition of a list is refused** where these names are taken, and those of the definitions before it. -/
def RefusedAt (taken : List String) (ds : List Definition) (k : Nat) (e : RuleError) : Prop :=
  ∃ d, ds[k]? = some d ∧ d.RefusedFor (taken ++ (ds.take k).map (·.name)) e

section
variable {taken : List String} {d : Definition} {ds : List Definition} {k : Nat} {e : RuleError}

theorem refusedAt_cons_zero : RefusedAt taken (d :: ds) 0 e ↔ d.RefusedFor taken e := by
  simp [RefusedAt]

theorem refusedAt_cons_succ : RefusedAt taken (d :: ds) (k + 1) e ↔ RefusedAt (taken ++ [d.name]) ds k e := by
  simp [RefusedAt]

theorem RefusedAt.of_take {i : Nat} (h : RefusedAt taken (ds.take k) i e) : i < k ∧ RefusedAt taken ds i e := by
  obtain ⟨d, hd, hrefused⟩ := h
  have hi : i < k := by
    by_contra hle
    rw [List.getElem?_eq_none (by rw [List.length_take]; omega)] at hd
    cases hd
  rw [List.getElem?_take_of_lt hi] at hd
  rw [List.take_take, Nat.min_eq_left (Nat.le_of_lt hi)] at hrefused
  exact ⟨hi, d, hd, hrefused⟩

end

namespace Catalog

theorem registerAll_append : ∀ (g : Registry) (ds ds' : List Definition),
    registerAll g (ds ++ ds') = match registerAll g ds with
      | (reached, none) => registerAll reached ds'
      | (reached, some e) => (reached, some e)
  | g, [], ds' => rfl
  | g, d :: ds, ds' => by
    rw [List.cons_append, registerAll, registerAll]
    cases d.toRule >>= g.register with
    | error e => rfl
    | ok reached => exact registerAll_append reached ds ds'

/-- **Definitions of which none is refused** are taken in. -/
theorem registerAll_accepted : ∀ {ds : List Definition} {g : Registry}, g.Indexed →
    (∀ k e, ¬ RefusedAt g.names ds k e) → ∃ rules, ds.mapM Definition.toRule = .ok rules ∧
      (g.addAll rules).Indexed ∧ registerAll g ds = (g.addAll rules, none)
  | [], g, h, _ => ⟨[], rfl, h, rfl⟩
  | d :: ds, g, h, hnone => by
    rw [registerAll]
    cases hd : d.toRule >>= g.register with
    | error e => exact absurd (refusedAt_cons_zero.2 ((Definition.refused_iff h).1 hd)) (hnone 0 e)
    | ok reached =>
      obtain ⟨r, hr, hregister⟩ := bind_eq_ok_iff.1 hd
      obtain ⟨-, hfree, rfl⟩ := h.register_eq_ok_iff.1 hregister
      have hrest : ∀ k e, ¬ RefusedAt (g.add r).names ds k e := by
        intro k e hrefused
        rw [Registry.names_add, Definition.name_of_toRule hr] at hrefused
        exact hnone (k + 1) e (refusedAt_cons_succ.2 hrefused)
      obtain ⟨rules, hrules, hindexed, hall⟩ := registerAll_accepted (h.add hfree) hrest
      refine ⟨r :: rules, ?_, hindexed, hall⟩
      rw [List.mapM_cons, hr, ok_bind, hrules]
      rfl

/-- **Definitions of which one is refused** are taken in up to the first that is. -/
theorem registerAll_refused {ds : List Definition} {g : Registry} (h : g.Indexed) {k : Nat} {e : RuleError}
    (hrefused : RefusedAt g.names ds k e) (hfirst : ∀ i < k, ∀ e', ¬ RefusedAt g.names ds i e') :
    ∃ rules, (ds.take k).mapM Definition.toRule = .ok rules ∧ registerAll g ds = (g.addAll rules, some e) := by
  -- What stands before the first refusal is a list without one.
  have hnone : ∀ i e', ¬ RefusedAt g.names (ds.take k) i e' := fun i e' hi => hfirst i hi.of_take.1 e' hi.of_take.2
  obtain ⟨rules, hrules, hindexed, hbefore⟩ := registerAll_accepted h hnone
  obtain ⟨d, hd, hfault⟩ := hrefused
  have hnames : (g.addAll rules).names = g.names ++ (ds.take k).map (·.name) := by
    rw [Registry.names_addAll, Definition.names_of_toRule hrules]
  have hstep : d.toRule >>= (g.addAll rules).register = .error e :=
    (Definition.refused_iff hindexed).2 (hnames ▸ hfault)
  have hsplit : ds = ds.take k ++ d :: ds.drop (k + 1) := by
    obtain ⟨hk, rfl⟩ := List.getElem?_eq_some_iff.1 hd
    rw [← List.drop_eq_getElem_cons hk, List.take_append_drop]
  refine ⟨rules, hrules, ?_⟩
  rw [hsplit, registerAll_append, hbefore]
  dsimp only
  rw [registerAll, hstep]

theorem registration_eq (c : Catalog) (origin : String) (g : Registry) : c.registration origin g =
    ((registerAll g c.elements).1, (registerAll g c.elements).2.elim (.ok c.elements.length) fun e =>
      .error (.invalidDefinition origin e)) := by
  unfold registration registerInto
  cases registerAll g c.elements with
  | mk reached fault => cases fault <;> rfl

/-- Registers a catalog, and then another one if that was accepted; it answers with the number of rules of both. -/
def registrationThen (c c' : Catalog) (origin origin' : String) (g : Registry) : Registry × Except CatalogError Nat :=
  match c.registration origin g with
  | (reached, .ok count) => ((c'.registration origin' reached).1, (count + ·) <$> (c'.registration origin' reached).2)
  | (reached, .error e) => (reached, .error e)

/-- **One catalog behind another is one catalog** with the definitions of both. -/
theorem registrationThen_eq (c c' : Catalog) (version origin origin' whole : String) (g : Registry) :
    (c.registrationThen c' origin origin' g).1 = ((mk version (c.elements ++ c'.elements)).registration whole g).1 ∧
      ∀ count, (c.registrationThen c' origin origin' g).2 = .ok count ↔
        ((mk version (c.elements ++ c'.elements)).registration whole g).2 = .ok count := by
  rw [registrationThen, registration_eq c, registration_eq (mk version _)]
  dsimp only
  rw [registerAll_append]
  cases registerAll g c.elements with
  | mk reached fault =>
    cases fault with
    | some e => exact ⟨rfl, fun count => iff_of_false nofun nofun⟩
    | none =>
      dsimp only [Option.elim]
      rw [registration_eq c']
      cases registerAll reached c'.elements with
      | mk reached fault =>
        cases fault with
        | some e => exact ⟨rfl, fun count => iff_of_false nofun nofun⟩
        | none => exact ⟨rfl, fun count => by rw [List.length_append]; rfl⟩

/-- **A catalog is taken in up to its first fault.**  A registry of any run takes in the rules of all definitions, in
their order and behind its own, and the answer is their number; or else it takes in those of the definitions before the
first one that is refused, and the answer names that one's error and where it is from.  One catalog and then, if it was
accepted, another one are accepted and leave what one catalog with the definitions of both does. -/
theorem registration_takes_prefix (calls : List Registration) :
    let g := Registry.empty.afterAll calls
    (∀ rules, (g.addAll rules).rules = g.rules ++ rules) ∧
    (∀ (c : Catalog) (origin : String), (∀ k e, ¬ RefusedAt g.names c.elements k e) →
      ∃ rules, c.elements.mapM Definition.toRule = .ok rules ∧
        c.registration origin g = (g.addAll rules, .ok c.elements.length)) ∧
    (∀ (c : Catalog) (origin : String) k e, RefusedAt g.names c.elements k e →
      (∀ i < k, ∀ e', ¬ RefusedAt g.names c.elements i e') →
        ∃ rules, (c.elements.take k).mapM Definition.toRule = .ok rules ∧
          c.registration origin g = (g.addAll rules, .error (.invalidDefinition origin e))) ∧
    ∀ (c c' : Catalog) (version origin origin' whole : String),
      let both := (mk version (c.elements ++ c'.elements)).registration whole g
      (c.registrationThen c' origin origin' g).1 = both.1 ∧
        ∀ count, (c.registrationThen c' origin origin' g).2 = .ok count ↔ both.2 = .ok count := by
  intro g
  have h : g.Indexed := (Registry.sound_afterAll calls Registry.sound_empty).indexed
  refine ⟨fun rules => Registry.rules_addAll rules g, fun c origin hnone => ?_, fun c origin k e hrefused hfirst => ?_,
    fun c c' version origin origin' whole => registrationThen_eq c c' version origin origin' whole g⟩
  · obtain ⟨rules, hrules, -, hall⟩ := registerAll_accepted h hnone
    exact ⟨rules, hrules, by rw [registration_eq, hall]; rfl⟩
  · obtain ⟨rules, hrules, hall⟩ := registerAll_refused h hrefused hfirst
    exact ⟨rules, hrules, by rw [registration_eq, hall]; rfl⟩

/-- A soft and a loud sign, and the loud one is there. -/
theorem registration_takes_prefix_dynamics :
    let f := Rule.command "f" "\\f" .empty
    let p := Rule.command "p" "\\p" .empty
    let g := Registry.empty.afterAll [.rule f]
    let soft : Catalog := ⟨"1.0", [.ofRule p]⟩
    let loud : Catalog := ⟨"1.0", [.ofRule p, .ofRule f, .ofRule p]⟩
    (∀ k e, ¬ RefusedAt g.names soft.elements k e) ∧
    RefusedAt g.names loud.elements 1 (.duplicateElement "f") ∧
    (∀ i < 1, ∀ e, ¬ RefusedAt g.names loud.elements i e) ∧
    soft.registration "soft" g = (g.addAll [p], .ok 1) ∧
    loud.registration "loud" g = (g.addAll [p], .error (.invalidDefinition "loud" (.duplicateElement "f"))) := by
  intro f p g soft loud
  have hnames : g.names = ["f"] := by decide +kernel
  have hp : (Definition.ofRule p).toRule = .ok p := Definition.toRule_ofRule p
  have hcheck : p.check = .ok () := by decide
  have hone : [Definition.ofRule p].mapM Definition.toRule = .ok [p] := by
    rw [List.mapM_cons, hp]
    rfl
  have hfree : ∀ e, ¬ (Definition.ofRule p).RefusedFor g.names e := by
    rw [hnames]
    rintro e (hconversion | ⟨hr, hvalidation⟩ | ⟨-, -, htaken⟩)
    · cases hp.symm.trans hconversion
    · cases hp.symm.trans hr
      cases hcheck.symm.trans hvalidation
    · exact absurd htaken (by decide)
  have hsoft : ∀ k e, ¬ RefusedAt g.names soft.elements k e := by
    rintro k e ⟨d, hd, hrefused⟩
    cases k with
    | zero =>
      cases hd
      exact hfree e (by simpa using hrefused)
    | succ k => cases hd
  have hloud : RefusedAt g.names loud.elements 1 (.duplicateElement "f") :=
    ⟨.ofRule f, rfl, .duplication (Definition.toRule_ofRule f) (by decide) (by rw [hnames]; decide)⟩
  have hfirst : ∀ i < 1, ∀ e, ¬ RefusedAt g.names loud.elements i e := by
    intro i hi e hrefused
    obtain rfl := Nat.lt_one_iff.1 hi
    exact hfree e (refusedAt_cons_zero.1 hrefused)
  obtain ⟨-, haccepted, hrefused, -⟩ := registration_takes_prefix [.rule f]
  obtain ⟨rules, hrules, hall⟩ := haccepted soft "soft" hsoft
  obtain ⟨before, hbefore, hstopped⟩ := hrefused loud "loud" 1 _ hloud hfirst
  cases hone.symm.trans hrules
  cases hone.symm.trans hbefore
  exact ⟨hsoft, hloud, hfirst, hall, hstopped⟩

end Catalog
end Partitura
