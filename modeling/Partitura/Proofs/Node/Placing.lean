import Partitura.Proofs.Acceptance
import Partitura.Proofs.Outcome
/-!
# Proofs.Node.Placing — what one named value does to the slots

A value by name goes to the first parameter of that name, else to the position of an attachment, else to the content of
a container; whichever it is has to be open, and nothing else changes (`Slots.Placed`).  This holds for every rule, also
for one whose slots share names.
-/
namespace Partitura
namespace Slots

/-- **The slots with one more value by name**, in the one slot that the name stands for. -/
inductive Placed (r : Rule) (s : Slots) (name : String) (value : Argument) : Slots → Prop
  | parameter {i : Nat} (hi : r.parameters.findIdx? (·.name == name) = some i) (hopen : s.parameters[i]? = some none) :
      Placed r s name value { s with parameters := s.parameters.set i (some value) }
  | position (hother : r.parameters.findIdx? (·.name == name) = none) (hname : name = Rule.positionSlot)
      (ha : r.isAttachment = true) (hopen : s.position = none) :
      Placed r s name value { s with position := some value }
  | content {items : List Element} (hother : r.parameters.findIdx? (·.name == name) = none)
      (hname : name = Rule.contentSlot) (hc : r.isContainer = true) (hvalue : value = .sequence items)
      (hopen : s.content = none) :
      Placed r s name value { s with content := some items }

variable {r : Rule} {s s' : Slots} {name : String} {value : Argument}

theorem Placed.length (h : Placed r s name value s') : s'.parameters.length = s.parameters.length := by
  cases h with
  | parameter hi hopen => exact List.length_set
  | position => rfl
  | content => rfl

/-- A content comes only to a container, and only by its own name. -/
theorem Placed.content_eq (h : Placed r s name value s') :
    s'.content = s.content ∨ (r.isContainer = true ∧ name = Rule.contentSlot) := by
  cases h with
  | parameter => exact .inl rfl
  | position => exact .inl rfl
  | content _ hname hc => exact .inr ⟨hc, hname⟩

/-- **One step of binding names** puts the value where its name says. -/
theorem placed_of_bindNamed (hlength : s.parameters.length = r.parameters.length)
    (h : bindNamed r s name value = .ok s') : Placed r s name value s' := by
  unfold bindNamed at h
  split at h
  · rename_i i hi
    have hlt : i < s.parameters.length := by
      rw [hlength]
      exact (List.findIdx?_eq_some_iff_getElem.1 hi).1
    split at h
    · cases h
    · rename_i hopen
      cases h
      refine .parameter hi ?_
      cases hplace : s.parameters[i]? with
      | none => exact absurd (List.getElem?_eq_none_iff.1 hplace) (Nat.not_le_of_lt hlt)
      | some place =>
        cases place with
        | none => rfl
        | some held => exact absurd hplace (hopen held)
  · rename_i hother
    split at h
    · rename_i hposition
      rw [Bool.and_eq_true, beq_iff_eq] at hposition
      split at h
      · cases h
      · rename_i hopen
        cases h
        exact .position hother hposition.1 hposition.2 hopen
    · split at h
      · rename_i hcontent
        rw [Bool.and_eq_true, beq_iff_eq] at hcontent
        split at h
        · split at h
          · cases h
          · rename_i hopen
            cases h
            exact .content hother hcontent.1 hcontent.2 rfl hopen
        · cases h
      · cases h

theorem Placed.bindNamed_eq (h : Placed r s name value s') : bindNamed r s name value = .ok s' := by
  unfold bindNamed
  cases h with
  | parameter hi hopen => rw [hi]; simp [hopen]
  | position hother hname ha hopen => rw [hother]; simp [hname, ha, hopen]
  | content hother hname hc hvalue hopen =>
    have hne : (Rule.contentSlot == Rule.positionSlot) = false := by decide
    rw [hother]
    simp [hname, hne, hc, hvalue, hopen]

/-- **What every placing keeps** holds after all names are bound. -/
theorem bindAll_induction {P : Slots → Prop} : ∀ {named : List (String × Argument)} {s s' : Slots},
    s.parameters.length = r.parameters.length →
    (∀ t u : Slots, ∀ entry ∈ named, Placed r t entry.1 entry.2 u → P t → P u) → P s →
      bindAll r s named = .ok s' → P s'
  | [], s, s', _, _, hs, h => by cases h; exact hs
  | (name, value) :: named, s, s', hlength, hstep, hs, h => by
    obtain ⟨t, ht, hrest⟩ := bind_eq_ok_iff.1 h
    have hplaced := placed_of_bindNamed hlength ht
    exact bindAll_induction (hplaced.length.trans hlength)
      (fun t u entry hentry => hstep t u entry (List.mem_cons_of_mem _ hentry))
      (hstep s t _ List.mem_cons_self hplaced hs) hrest

theorem length_vacant (r : Rule) : (vacant r).parameters.length = r.parameters.length := List.length_map _

theorem length_of_bindAll {named : List (String × Argument)} (h : bindAll r (vacant r) named = .ok s) :
    s.parameters.length = r.parameters.length :=
  bindAll_induction (P := fun t => t.parameters.length = r.parameters.length) (length_vacant r)
    (fun _ _ _ _ hplaced hlength => hplaced.length.trans hlength) (length_vacant r) h

/-! ## The first sequence -/

theorem firstSequence_cons {v : Argument} (h : v.items? = none) (values : List Argument) :
    firstSequence (v :: values) = (firstSequence values).map fun (items, others) => (items, v :: others) := by
  cases v with
  | sequence items => cases h
  | _ => rfl

/-- Behind values that are none, a sequence is the first, and the others close up. -/
theorem firstSequence_append {items : List Element} {after : List Argument} : ∀ {before : List Argument},
    (∀ v ∈ before, v.items? = none) →
      firstSequence (before ++ .sequence items :: after) = some (items, before ++ after)
  | [], _ => rfl
  | v :: before, h => by
    rw [List.forall_mem_cons] at h
    rw [List.cons_append, firstSequence_cons h.1, firstSequence_append h.2]
    rfl

/-- **The first sequence** stands behind values that are none, and is taken out from among the others. -/
theorem firstSequence_eq_some {items : List Element} : ∀ {values rest : List Argument},
    firstSequence values = some (items, rest) →
      ∃ before after, values = before ++ .sequence items :: after ∧ rest = before ++ after
  | .sequence _ :: values, _, h => by
    cases h
    exact ⟨[], values, rfl, rfl⟩
  | .leaf _ :: values, _, h | .element _ :: values, _, h | .position _ :: values, _, h => by
    obtain ⟨⟨_, rest⟩, hfirst, heq⟩ := Option.map_eq_some_iff.1 h
    cases heq
    obtain ⟨before, after, rfl, rfl⟩ := firstSequence_eq_some hfirst
    exact ⟨_ :: before, after, rfl, rfl⟩

/-- Either no content is taken, or the first sequence is, into the open content of a container. -/
theorem takeContent_cases (r : Rule) (s : Slots) (values : List Argument) :
    takeContent r s values = (s, values) ∨ ∃ before items after,
      values = before ++ .sequence items :: after ∧ s.content = none ∧ r.isContainer = true ∧
        takeContent r s values = ({ s with content := some items }, before ++ after) := by
  unfold takeContent
  split
  · rename_i items rest hopen hc hfirst
    obtain ⟨before, after, rfl, rfl⟩ := firstSequence_eq_some hfirst
    exact .inr ⟨before, items, after, rfl, hopen, hc, rfl⟩
  · exact .inl rfl

end Slots
end Partitura
