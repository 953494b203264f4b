import Partitura.Proofs.Node.Placing
import Partitura.Proofs.Node.Valid
/-!
# Proofs.Node.Built — a node that is built is valid

Slots hold only what was given, and a position only for an attachment (`Slots.Sound`).  The checks let a value into a
node only if its parameter takes it, and a child only if the rule accepts it; so a node that is built fits its rule
(`fits_of_ofArguments`), and from valid elements it is valid, for every rule whose parameters have names of their own.
-/
namespace Partitura

/-- The elements in an argument. -/
def Argument.elements : Argument → List Element
  | leaf _ | position _ => []
  | element e => [e]
  | sequence items => items

/-- The elements in all arguments. -/
def Arguments.elements (args : Arguments) : List Element :=
  args.positional.flatMap Argument.elements ++ args.named.flatMap fun entry => entry.2.elements

/-- **Slots that hold only what was given**: `Given` says of an argument that it was. -/
structure Slots.Sound (r : Rule) (Given : Argument → Prop) (s : Slots) : Prop where
  length : s.parameters.length = r.parameters.length
  held : ∀ v, some v ∈ s.parameters → Given v
  position : ∀ v, s.position = some v → r.isAttachment = true
  content : ∀ items, s.content = some items → Given (.sequence items)

namespace Slots

variable {r : Rule} {Given : Argument → Prop} {s s' : Slots}

theorem sound_vacant (r : Rule) (Given : Argument → Prop) : Sound r Given (vacant r) where
  length := by simp [vacant]
  held := by simp [vacant]
  position := by simp [vacant]
  content := by simp [vacant]

theorem Sound.placed {name : String} {value : Argument} (h : Sound r Given s) (hv : Given value)
    (hplaced : Placed r s name value s') : Sound r Given s' := by
  cases hplaced with
  | parameter hi hopen =>
    refine { length := ?_, held := ?_, position := h.position, content := h.content }
    · simp [h.length]
    · intro v hmem
      rcases List.mem_or_eq_of_mem_set hmem with hmem | heq
      · exact h.held v hmem
      · cases heq; exact hv
  | position _ _ ha _ =>
    exact { length := h.length, held := h.held, position := fun _ _ => ha, content := h.content }
  | content _ _ _ hvalue _ =>
    subst hvalue
    exact { length := h.length, held := h.held, position := h.position, content := fun _ hi =>
      Option.some.inj hi ▸ hv }

theorem sound_bindAll {named : List (String × Argument)} (hg : ∀ entry ∈ named, Given entry.2)
    (hb : bindAll r (vacant r) named = .ok s) : Sound r Given s := by
  refine bindAll_induction (P := Sound r Given) (length_vacant r) ?_ (sound_vacant r Given) hb
  intro t u entry hentry hplaced h
  exact h.placed (hg entry hentry) hplaced

theorem sound_takeContent {values : List Argument} (h : Sound r Given s) (hg : ∀ v ∈ values, Given v) :
    Sound r Given (takeContent r s values).1 ∧ ∀ v ∈ (takeContent r s values).2, Given v := by
  rcases takeContent_cases r s values with htake | ⟨before, items, after, rfl, -, -, htake⟩
  · rw [htake]
    exact ⟨h, hg⟩
  · rw [htake]
    obtain ⟨hbefore, hitems, hafter⟩ := by simpa only [List.forall_mem_append, List.forall_mem_cons] using hg
    refine ⟨?_, List.forall_mem_append.2 ⟨hbefore, hafter⟩⟩
    exact { length := h.length, held := h.held, position := h.position, content := fun _ hi =>
      Option.some.inj hi ▸ hitems }

theorem length_fill : ∀ (places : List (Option Argument)) (values : List Argument),
    (fill places values).1.length = places.length
  | [], _ => rfl
  | some _ :: places, values => by simp [fill, length_fill places values]
  | none :: places, [] => rfl
  | none :: places, _ :: values => by simp [fill, length_fill places values]

/-- Filling places nothing but what they held and the values. -/
theorem mem_fill : ∀ (places : List (Option Argument)) (values : List Argument),
    (∀ v, some v ∈ (fill places values).1 → some v ∈ places ∨ v ∈ values) ∧
      ∀ v ∈ (fill places values).2, v ∈ values
  | [], values => ⟨fun _ hv => absurd hv List.not_mem_nil, fun _ hv => hv⟩
  | some held :: places, values => by
    obtain ⟨hplaces, hrest⟩ := mem_fill places values
    refine ⟨fun v hv => ?_, hrest⟩
    rcases List.mem_cons.1 hv with heq | hv
    · exact Or.inl (heq ▸ List.mem_cons_self)
    · exact (hplaces v hv).imp_left (List.mem_cons_of_mem _)
  | none :: places, [] => ⟨fun v hv => Or.inl hv, fun v hv => hv⟩
  | none :: places, value :: values => by
    obtain ⟨hplaces, hrest⟩ := mem_fill places values
    refine ⟨fun v hv => ?_, fun v hv => List.mem_cons_of_mem _ (hrest v hv)⟩
    rcases List.mem_cons.1 hv with heq | hv
    · cases heq; exact Or.inr List.mem_cons_self
    · exact (hplaces v hv).imp (List.mem_cons_of_mem _) (List.mem_cons_of_mem _)

theorem isAttachment_of_fillPosition {held : Option Argument} {values : List Argument} {v : Argument}
    (h : ∀ v, held = some v → r.isAttachment = true) (hv : (fillPosition r held values).1 = some v) :
    r.isAttachment = true := by
  unfold fillPosition at hv
  split at hv
  · split at hv
    · assumption
    · cases hv
  · exact h v hv

theorem sound_bindPositional {values : List Argument} (h : Sound r Given s) (hg : ∀ v ∈ values, Given v) :
    Sound r Given (bindPositional r s values).1 := by
  obtain ⟨hsound, hleft⟩ := sound_takeContent h hg
  unfold bindPositional
  generalize takeContent r s values = taken at hsound hleft
  obtain ⟨hplaces, -⟩ := mem_fill taken.1.parameters taken.2
  exact {
    length := (length_fill _ _).trans hsound.length
    held := fun v hv => (hplaces v hv).elim (hsound.held v) (hleft v)
    position := fun v hv => isAttachment_of_fillPosition hsound.position hv
    content := hsound.content }

end Slots

/-! ## The checks -/

theorem check_eq_ok_iff {element : String} {p : Parameter} {value : Argument} {v : Value} :
    p.check element value = .ok v ↔ p.take? value = some v := by
  rw [Parameter.check_eq]
  cases p.take? value <;> simp

/-- **What the parameters let in**: values that were held, in the order of the parameters, each accepted by its own. -/
theorem checkParameters_ok {element : String} : ∀ (ps : List Parameter) (places : List (Option Argument))
    (vs : List (String × Value)), checkParameters element ps places = .ok vs →
      (vs.map Prod.fst).Sublist (ps.map (·.name)) ∧
      (∀ name v, (name, v) ∈ vs → ∃ p ∈ ps, p.name = name ∧ p.kind.accepts v = true) ∧
      ∀ entry ∈ vs, ∃ value, some value ∈ places ∧ value.value? = some entry.2
  | [], places, vs, h => by
    cases h
    simp
  | p :: ps, [], vs, h => by
    cases h
    simp
  | p :: ps, none :: places, vs, h => by
    obtain ⟨hsub, haccepted, hheld⟩ := checkParameters_ok ps places vs h
    refine ⟨hsub.cons _, fun name v hv => ?_, fun entry he => ?_⟩
    · obtain ⟨q, hq, hname⟩ := haccepted name v hv
      exact ⟨q, List.mem_cons_of_mem _ hq, hname⟩
    · obtain ⟨value, hvalue, hv⟩ := hheld entry he
      exact ⟨value, List.mem_cons_of_mem _ hvalue, hv⟩
  | p :: ps, some value :: places, vs, h => by
    simp only [checkParameters, bind_eq_ok_iff] at h
    obtain ⟨v, hcheck, vs', hrest, heq⟩ := h
    cases heq
    rw [check_eq_ok_iff] at hcheck
    obtain ⟨hsub, haccepted, hheld⟩ := checkParameters_ok ps places vs' hrest
    refine ⟨hsub.cons_cons _, fun name w hw => ?_, fun entry he => ?_⟩
    · rcases List.mem_cons.1 hw with heq | hw
      · cases heq
        exact ⟨p, List.mem_cons_self, rfl, Parameter.accepts_of_take? hcheck⟩
      · obtain ⟨q, hq, hname⟩ := haccepted name w hw
        exact ⟨q, List.mem_cons_of_mem _ hq, hname⟩
    · rcases List.mem_cons.1 he with rfl | he
      · exact ⟨value, List.mem_cons_self, Parameter.value?_of_take? hcheck⟩
      · obtain ⟨value', hvalue, hv⟩ := hheld entry he
        exact ⟨value', List.mem_cons_of_mem _ hvalue, hv⟩

/-- With a place for every parameter and none missing, every required name is bound. -/
theorem required_of_firstMissing {element : String} : ∀ (ps : List Parameter) (places : List (Option Argument))
    (vs : List (String × Value)), checkParameters element ps places = .ok vs → places.length = ps.length →
      Slots.firstMissing ps places = none → ∀ p ∈ ps, p.optional = false → p.name ∈ vs.map Prod.fst
  | [], _, _, _, _, _, p, hp, _ => absurd hp List.not_mem_nil
  | _ :: _, [], _, _, hl, _, _, _, _ => by simp at hl
  | q :: ps, none :: places, vs, h, hl, hm, p, hp, ho => by
    simp only [Slots.firstMissing, Option.isNone_none, Bool.and_true] at hm
    split at hm
    · cases hm
    · rename_i hq
      rcases List.mem_cons.1 hp with rfl | hp
      · simp [ho] at hq
      · exact required_of_firstMissing ps places vs h (Nat.succ.inj hl) hm p hp ho
  | q :: ps, some value :: places, vs, h, hl, hm, p, hp, ho => by
    simp only [checkParameters, bind_eq_ok_iff] at h
    obtain ⟨v, -, vs', hrest, heq⟩ := h
    cases heq
    simp only [Slots.firstMissing, Option.isNone_some, Bool.and_false, Bool.false_eq_true, if_false] at hm
    rw [List.map_cons, List.mem_cons]
    rcases List.mem_cons.1 hp with rfl | hp
    · exact Or.inl rfl
    · exact Or.inr (required_of_firstMissing ps places vs' hrest (Nat.succ.inj hl) hm p hp ho)

theorem checkChild_eq_ok_iff {r : Rule} {child : Element} :
    r.checkChild child = .ok () ↔ ∃ allowed, r.content = some allowed ∧ allowed.intersects child.categories = true := by
  unfold Rule.checkChild
  cases r.content with
  | none => simp
  | some allowed => by_cases h : allowed.intersects child.categories = true <;> simp [h]

theorem checkChildren_eq_ok_iff {r : Rule} : ∀ {children : List Element},
    r.checkChildren children = .ok () ↔ ∀ child ∈ children, r.checkChild child = .ok ()
  | [] => by simp [Rule.checkChildren]
  | child :: children => by
    rw [Rule.checkChildren, bind_eq_ok_iff, List.forall_mem_cons]
    constructor
    · rintro ⟨⟨⟩, hchild, hrest⟩
      exact ⟨hchild, checkChildren_eq_ok_iff.1 hrest⟩
    · rintro ⟨hchild, hrest⟩
      exact ⟨(), hchild, checkChildren_eq_ok_iff.2 hrest⟩

/-- The children of an accepted content: those held, in a container, and the rule accepts each of them. -/
theorem resolveContent_ok {r : Rule} {held children : Option (List Element)}
    (h : r.resolveContent held = .ok children) :
    children = r.content.map (fun _ => held.getD []) ∧
      ∀ cs, children = some cs → ∀ child ∈ cs, r.checkChild child = .ok () := by
  unfold Rule.resolveContent at h
  cases hc : r.content with
  | none =>
    rw [hc] at h
    cases h
    exact ⟨rfl, nofun⟩
  | some allowed =>
    rw [hc] at h
    obtain ⟨⟨⟩, hchecked, heq⟩ := bind_eq_ok_iff.1 h
    cases heq
    refine ⟨rfl, fun cs hcs => ?_⟩
    cases hcs
    exact checkChildren_eq_ok_iff.1 hchecked

theorem checkPosition_unset {r : Rule} {held : Option Argument} {p : Position}
    (hheld : ∀ v, held = some v → r.isAttachment = true) (h : r.checkPosition held = .ok p) (hp : p ≠ .unset) :
    r.isAttachment = true := by
  cases held with
  | none => cases h; exact absurd rfl hp
  | some v => exact hheld v rfl

theorem Value.valid_of_value? {value : Argument} {v : Value} (h : ∀ e ∈ value.elements, e.Valid)
    (hv : value.value? = some v) : v.Valid := by
  cases value with
  | leaf leaf => cases hv; trivial
  | element e => cases hv; exact h e List.mem_cons_self
  | sequence items => cases hv
  | position p => cases hv

/-- The stages of building a node. -/
theorem ofArguments_ok {r : Rule} {args : Arguments} {n : Node} (h : Node.ofArguments r args = .ok n) :
    ∃ named, Slots.bindAll r (.vacant r) args.named = .ok named ∧
      let slots := (named.bindPositional r args.positional).1
      (named.bindPositional r args.positional).2 = [] ∧
      Slots.firstMissing r.parameters slots.parameters = none ∧ n.rule = r ∧
      checkParameters r.name r.parameters slots.parameters = .ok n.parameters ∧
      r.resolveContent slots.content = .ok n.children ∧ r.checkPosition slots.position = .ok n.position := by
  rw [Node.ofArguments, bind_eq_ok_iff] at h
  obtain ⟨named, hnamed, h⟩ := h
  refine ⟨named, hnamed, ?_⟩
  dsimp only at h ⊢
  split at h
  · simp at h
  · rename_i hrest
    split at h
    · simp at h
    · rename_i hmissing
      simp only [pure_eq_ok, bind_eq_ok_iff] at h
      obtain ⟨parameters, hparameters, children, hchildren, position, hposition, heq⟩ := h
      cases heq
      have hnone : (named.bindPositional r args.positional).2 = [] := by
        cases hvalues : (named.bindPositional r args.positional).2 with
        | nil => rfl
        | cons value values => exact absurd hvalues (hrest value values)
      exact ⟨hnone, Option.eq_none_iff_forall_ne_some.2 hmissing, rfl, hparameters, hchildren, hposition⟩

/-- **A node that is built fits its rule.** -/
theorem fits_of_ofArguments {r : Rule} {args : Arguments} {n : Node} (hr : (r.parameters.map (·.name)).Nodup)
    (h : Node.ofArguments r args = .ok n) : n.Fits := by
  obtain ⟨named, hnamed, -, hmissing, rfl, hparameters, hchildren, hposition⟩ := ofArguments_ok h
  have hgiven : ∀ value ∈ args.positional, (fun _ : Argument => True) value := fun _ _ => trivial
  have hsound := Slots.sound_bindPositional (Slots.sound_bindAll (fun _ _ => trivial) hnamed) hgiven
  obtain ⟨hordered, haccepted, -⟩ := checkParameters_ok _ _ _ hparameters
  obtain ⟨hkept, hchecked⟩ := resolveContent_ok hchildren
  exact {
    declared := hr
    ordered := hordered
    distinct := hordered.nodup hr
    required := required_of_firstMissing _ _ _ hparameters hsound.length hmissing
    accepted := haccepted
    container := by rw [hkept, Option.isSome_map, Rule.isContainer]
    content := by
      intro children allowed hs ha child hchild
      obtain ⟨allowed', ha', hi⟩ := checkChild_eq_ok_iff.1 (hchecked children hs child hchild)
      rw [ha] at ha'
      exact Option.some.inj ha' ▸ hi
    position := checkPosition_unset hsound.position hposition }

/-- **A node that is built from valid elements is valid.** -/
theorem valid_of_ofArguments {r : Rule} {args : Arguments} {n : Node} (hr : (r.parameters.map (·.name)).Nodup)
    (hargs : ∀ e ∈ args.elements, e.Valid) (h : Node.ofArguments r args = .ok n) : n.Valid := by
  obtain ⟨named, hnamed, -, -, rfl, hparameters, hchildren, -⟩ := ofArguments_ok h
  have hgiven : ∀ value ∈ args.positional, ∀ e ∈ value.elements, e.Valid := fun value hv e he =>
    hargs e (List.mem_append_left _ (List.mem_flatMap.2 ⟨value, hv, he⟩))
  have hgivenNamed : ∀ entry ∈ args.named, ∀ e ∈ entry.2.elements, e.Valid := fun entry hentry e he =>
    hargs e (List.mem_append_right _ (List.mem_flatMap.2 ⟨entry, hentry, he⟩))
  have hsound := Slots.sound_bindPositional (Slots.sound_bindAll hgivenNamed hnamed) hgiven
  obtain ⟨-, -, hheld⟩ := checkParameters_ok _ _ _ hparameters
  obtain ⟨hkept, -⟩ := resolveContent_ok hchildren
  refine (Node.valid_iff n).2 ⟨fits_of_ofArguments hr h, ?_, ?_⟩
  · intro entry he
    obtain ⟨value, hvalue, hv⟩ := hheld entry he
    exact Value.valid_of_value? (hsound.held value hvalue) hv
  · intro children hs e he
    obtain ⟨-, -, rfl⟩ := Option.map_eq_some_iff.1 (hkept.symm.trans hs)
    cases hslot : (named.bindPositional n.rule args.positional).1.content with
    | none => simp [hslot] at he
    | some items =>
      rw [hslot] at he
      exact hsound.content items hslot e he

end Partitura
