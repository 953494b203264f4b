import Mathlib.Data.List.Basic
import Partitura.Proofs.Node.Binding
import Partitura.Proofs.Outcome
/-!
# Proofs.Node.Slots — what the slots hold

Slots are filled one after the other.  After the named values every slot holds what is named for it (`bindAll_vacant`);
filling gives each open parameter the value of its number (`fill_map`), so that after the positional values every slot
holds the value that counting gives it (`bindPositional_ofNamed`).
-/
namespace Partitura

open Binding (entryFault? namedFault? takesContent openSlots positionalSlots)

theorem Rule.isContainer_of_content {r : Rule} {allowed : CategorySet} (h : r.content = some allowed) :
    r.isContainer = true := by
  rw [Rule.isContainer, h]
  rfl

/-! ## The named values -/

namespace Slots

/-- The slots that hold what is named for them. -/
def ofNamed (r : Rule) (named : List (String × Argument)) : Slots where
  parameters := r.parameters.map fun p => named.lookup p.name
  position := if r.isAttachment then named.lookup Rule.positionSlot else none
  content := if r.isContainer then (named.lookup Rule.contentSlot).map fun v => v.items?.getD [] else none

end Slots

theorem lookup_concat {α : Type} (entries : List (String × α)) (name key : String) (value : α) :
    (entries ++ [(name, value)]).lookup key = (entries.lookup key).or (if key = name then some value else none) := by
  rw [List.lookup_append]
  by_cases h : key = name
  · subst h; simp
  · simp [List.lookup_cons, beq_eq_false_iff_ne.2 h, h]

theorem lookup_eq_none_iff_not_mem {α : Type} (entries : List (String × α)) (name : String) :
    entries.lookup name = none ↔ name ∉ entries.map Prod.fst := by
  rw [List.lookup_eq_none_iff]
  simp only [List.mem_map, not_exists, not_and, bne_iff_ne]
  exact ⟨fun h p hp hn => h p hp hn.symm, fun h p hp hn => h p hp hn.symm⟩

theorem exists_lookup_of_mem {α : Type} {entries : List (String × α)} {name : String}
    (h : name ∈ entries.map Prod.fst) : ∃ v, entries.lookup name = some v :=
  Option.ne_none_iff_exists'.1 fun hn => (lookup_eq_none_iff_not_mem _ _).1 hn h

theorem findIdx?_name_eq_none_iff (ps : List Parameter) (name : String) :
    ps.findIdx? (·.name == name) = none ↔ name ∉ ps.map (·.name) := by
  rw [List.findIdx?_eq_none_iff]
  simp

theorem map_lookup_concat {ps : List Parameter} {name : String} (named : List (String × Argument)) (value : Argument)
    (h : name ∉ ps.map (·.name)) :
    ps.map (fun p => (named ++ [(name, value)]).lookup p.name) = ps.map fun p => named.lookup p.name := by
  apply List.map_congr_left
  intro p hp
  have hne : p.name ≠ name := fun heq => h (heq ▸ List.mem_map_of_mem hp)
  rw [lookup_concat, if_neg hne, Option.or_none]

/-- One more named value fills the place of its parameter. -/
theorem set_lookup {ps : List Parameter} {i : Nat} {name : String} (value : Argument)
    (named : List (String × Argument)) (hnd : (ps.map (·.name)).Nodup)
    (hi : ps.findIdx? (·.name == name) = some i) (hnone : named.lookup name = none) :
    (ps.map fun p => named.lookup p.name).set i (some value) =
      ps.map fun p => (named ++ [(name, value)]).lookup p.name := by
  induction ps generalizing i with
  | nil => simp at hi
  | cons p ps ih =>
    rw [List.map_cons, List.nodup_cons] at hnd
    rw [List.findIdx?_cons] at hi
    by_cases hp : p.name = name
    · simp only [hp, beq_self_eq_true, if_true, Option.some.injEq] at hi
      subst hi
      rw [List.map_cons, List.set_cons_zero, List.map_cons, map_lookup_concat named value (hp ▸ hnd.1), lookup_concat,
        hp, hnone]
      simp
    · simp only [beq_eq_false_iff_ne.2 hp, Bool.false_eq_true, if_false, Option.map_eq_some_iff] at hi
      obtain ⟨j, hj, rfl⟩ := hi
      rw [List.map_cons, List.set_cons_succ, ih hnd.2 hj, List.map_cons, lookup_concat, if_neg hp, Option.or_none]

namespace Slots

variable {r : Rule}

theorem isContainer_of_slotNames (h : r.slotNames.Nodup) (hc : r.isContainer = true) :
    Rule.contentSlot ∉ r.parameters.map (·.name) := by
  intro hmem
  simp only [Rule.slotNames, hc, if_true] at h
  exact (List.nodup_append.1 h).2.2 _ (List.mem_append_left _ hmem) _ (List.mem_singleton_self _) rfl

theorem isAttachment_of_slotNames (h : r.slotNames.Nodup) (ha : r.isAttachment = true) :
    Rule.positionSlot ∉ r.parameters.map (·.name) := by
  intro hmem
  simp only [Rule.slotNames, ha, if_true] at h
  exact (List.nodup_append.1 (List.nodup_append.1 h).1).2.2 _ hmem _ (List.mem_singleton_self _) rfl

theorem parameters_nodup (h : r.slotNames.Nodup) : (r.parameters.map (·.name)).Nodup :=
  (List.nodup_append.1 (List.nodup_append.1 h).1).1

/-- A named value for a parameter. -/
theorem bindNamed_parameter (h : r.slotNames.Nodup) (named : List (String × Argument)) {name : String}
    (value : Argument) (hmem : name ∈ r.parameters.map (·.name)) :
    bindNamed r (ofNamed r named) name value =
      if name ∈ named.map Prod.fst then again r name else .ok (ofNamed r (named ++ [(name, value)])) := by
  obtain ⟨i, hi⟩ := Option.ne_none_iff_exists'.1 fun hn => (findIdx?_name_eq_none_iff _ _).1 hn hmem
  obtain ⟨hlt, hname, -⟩ := List.findIdx?_eq_some_iff_getElem.1 hi
  have hheld : (ofNamed r named).parameters[i]? = some (named.lookup name) := by
    simp only [ofNamed, List.getElem?_map, List.getElem?_eq_getElem hlt, Option.map_some]
    rw [beq_iff_eq.1 hname]
  simp only [bindNamed, hi, hheld]
  by_cases hin : name ∈ named.map Prod.fst
  · obtain ⟨v, hl⟩ := exists_lookup_of_mem hin
    rw [hl, if_pos hin]
  · have hl := (lookup_eq_none_iff_not_mem _ _).2 hin
    rw [hl, if_neg hin]
    have hposition : r.isAttachment = true → Rule.positionSlot ≠ name := fun ha heq =>
      isAttachment_of_slotNames h ha (heq ▸ hmem)
    have hcontent : r.isContainer = true → Rule.contentSlot ≠ name := fun hc heq =>
      isContainer_of_slotNames h hc (heq ▸ hmem)
    simp only [ofNamed, set_lookup value named (parameters_nodup h) hi hl, lookup_concat]
    by_cases ha : r.isAttachment = true <;> by_cases hc : r.isContainer = true <;> simp_all

theorem mem_slotNames {name : String} : name ∈ r.slotNames ↔
    name ∈ r.parameters.map (·.name) ∨ (name = Rule.positionSlot ∧ r.isAttachment = true) ∨
      (name = Rule.contentSlot ∧ r.isContainer = true) := by
  simp only [Rule.slotNames, List.mem_append, or_assoc]
  by_cases ha : r.isAttachment = true <;> by_cases hc : r.isContainer = true <;> simp [ha, hc]

/-- A value for the position of an attachment, which no parameter is called by. -/
theorem bindNamed_position (h : r.slotNames.Nodup) (named : List (String × Argument)) (value : Argument)
    (ha : r.isAttachment = true) :
    bindNamed r (ofNamed r named) Rule.positionSlot value =
      if Rule.positionSlot ∈ named.map Prod.fst then again r Rule.positionSlot
      else .ok (ofNamed r (named ++ [(Rule.positionSlot, value)])) := by
  have hno := isAttachment_of_slotNames h ha
  simp only [bindNamed, (findIdx?_name_eq_none_iff _ _).2 hno, ha, beq_self_eq_true, Bool.and_self, if_true, ofNamed]
  by_cases hin : Rule.positionSlot ∈ named.map Prod.fst
  · obtain ⟨v, hl⟩ := exists_lookup_of_mem hin
    rw [hl, if_pos hin]
  · have hl := (lookup_eq_none_iff_not_mem _ _).2 hin
    have hcontent : Rule.contentSlot ≠ Rule.positionSlot := by decide
    rw [if_neg hin, map_lookup_concat named _ hno, lookup_concat, lookup_concat, hl, if_neg hcontent, Option.or_none]
    simp

/-- A value for the content of a container: it has to be a sequence, and the first one. -/
theorem bindNamed_content (h : r.slotNames.Nodup) (named : List (String × Argument)) (value : Argument)
    (hc : r.isContainer = true) :
    bindNamed r (ofNamed r named) Rule.contentSlot value =
      if value.items? = none then .error (.invalidArgument (.contentNotSequence r.name value.describe))
      else if Rule.contentSlot ∈ named.map Prod.fst then again r Rule.contentSlot
      else .ok (ofNamed r (named ++ [(Rule.contentSlot, value)])) := by
  have hno := isContainer_of_slotNames h hc
  have hposition : (Rule.contentSlot == Rule.positionSlot) = false := by decide
  simp only [bindNamed, (findIdx?_name_eq_none_iff _ _).2 hno, hc, hposition, beq_self_eq_true, Bool.and_self,
    Bool.false_and, Bool.false_eq_true, if_false, if_true, ofNamed]
  cases value with
  | sequence items =>
    have hseq : ¬ (Argument.sequence items).items? = none := by simp [Argument.items?]
    rw [if_neg hseq]
    by_cases hin : Rule.contentSlot ∈ named.map Prod.fst
    · obtain ⟨v, hl⟩ := exists_lookup_of_mem hin
      rw [hl, if_pos hin]
      rfl
    · have hl := (lookup_eq_none_iff_not_mem _ _).2 hin
      have hne : Rule.positionSlot ≠ Rule.contentSlot := by decide
      rw [if_neg hin, map_lookup_concat named _ hno, lookup_concat, lookup_concat, hl, if_neg hne, Option.or_none]
      rfl
  | leaf v => rfl
  | element e => rfl
  | position p => rfl

theorem bindNamed_unknown (named : List (String × Argument)) {name : String} (value : Argument)
    (hno : name ∉ r.slotNames) :
    bindNamed r (ofNamed r named) name value = .error (.invalidArgument (.noSuchSlot r.name name)) := by
  rw [mem_slotNames, not_or, not_or] at hno
  obtain ⟨hp, ha, hc⟩ := hno
  have ha' : (name == Rule.positionSlot && r.isAttachment) = false := by simpa using ha
  have hc' : (name == Rule.contentSlot && r.isContainer) = false := by simpa using hc
  simp [bindNamed, (findIdx?_name_eq_none_iff _ _).2 hp, ha', hc']

/-- **One named value** fills the slot of its name, unless something is wrong with it. -/
theorem bindNamed_ofNamed (h : r.slotNames.Nodup) (named : List (String × Argument)) (name : String)
    (value : Argument) :
    bindNamed r (ofNamed r named) name value =
      match entryFault? r (named.map Prod.fst) name value with
      | some fault => .error (.invalidArgument fault)
      | none => .ok (ofNamed r (named ++ [(name, value)])) := by
  unfold entryFault?
  by_cases hslot : name ∈ r.slotNames
  · rw [if_neg (not_not_intro hslot)]
    rcases mem_slotNames.1 hslot with hp | ⟨rfl, ha⟩ | ⟨rfl, hc⟩
    · have hcontent : ¬ (r.isContainer ∧ name = Rule.contentSlot ∧ value.items? = none) := fun ⟨hc, heq, _⟩ =>
        isContainer_of_slotNames h hc (heq ▸ hp)
      rw [bindNamed_parameter h named value hp, if_neg hcontent]
      split <;> rfl
    · have hcontent : ¬ (r.isContainer ∧ Rule.positionSlot = Rule.contentSlot ∧ value.items? = none) := by
        rintro ⟨-, heq, -⟩
        exact absurd heq (by decide)
      rw [bindNamed_position h named value ha, if_neg hcontent]
      split <;> rfl
    · rw [bindNamed_content h named value hc]
      by_cases hseq : value.items? = none
      · rw [if_pos hseq, if_pos ⟨hc, rfl, hseq⟩]
      · have hcontent : ¬ (r.isContainer ∧ Rule.contentSlot = Rule.contentSlot ∧ value.items? = none) := fun hh =>
          hseq hh.2.2
        rw [if_neg hseq, if_neg hcontent]
        split <;> rfl
  · rw [if_pos hslot, bindNamed_unknown named value hslot]

/-- Named values behind others that are bound already. -/
theorem bindAll_ofNamed (h : r.slotNames.Nodup) : ∀ (entries done : List (String × Argument)),
    bindAll r (ofNamed r done) entries =
      match (entries.zipIdx done.length).findSome? (fun (entry, i) =>
        (entryFault? r (((done ++ entries).take i).map Prod.fst) entry.1 entry.2).map ScoreError.invalidArgument) with
      | some e => .error e
      | none => .ok (ofNamed r (done ++ entries))
  | [], done => by simp [bindAll]
  | (name, value) :: entries, done => by
    have htake : (done ++ (name, value) :: entries).take done.length = done := List.take_left
    rw [bindAll, bindNamed_ofNamed h, List.zipIdx_cons, List.findSome?_cons]
    dsimp only
    rw [htake]
    cases entryFault? r (done.map Prod.fst) name value with
    | some fault => rfl
    | none =>
      have ih := bindAll_ofNamed h entries (done ++ [(name, value)])
      rw [List.length_append, List.length_singleton, List.append_assoc, List.singleton_append] at ih
      simpa using ih

/-- **The named values**: bound each to its slot, or the first fault among them. -/
theorem bindAll_vacant (h : r.slotNames.Nodup) (named : List (String × Argument)) :
    bindAll r (vacant r) named = match namedFault? r named with
      | some e => .error e
      | none => .ok (ofNamed r named) := by
  have hvacant : vacant r = ofNamed r [] := by simp [vacant, ofNamed]
  rw [hvacant]
  exact bindAll_ofNamed h named []

/-! ## The positional values -/

theorem firstSequence_eq : ∀ values : List Argument,
    firstSequence values =
      (values.findSome? Argument.items?).map fun items => (items, values.eraseP (·.items?.isSome))
  | [] => rfl
  | .sequence _ :: _ => rfl
  | .leaf v :: values => by
    simp [firstSequence, firstSequence_eq values, Argument.items?, Option.map_map, Function.comp_def]
  | .element e :: values => by
    simp [firstSequence, firstSequence_eq values, Argument.items?, Option.map_map, Function.comp_def]
  | .position p :: values => by
    simp [firstSequence, firstSequence_eq values, Argument.items?, Option.map_map, Function.comp_def]

theorem eraseP_of_findSome?_eq_none {values : List Argument} (h : values.findSome? Argument.items? = none) :
    values.eraseP (·.items?.isSome) = values := by
  apply List.eraseP_of_forall_not
  intro v hv
  simp [List.findSome?_eq_none_iff.1 h v hv]

/-- What the content slot holds after the positional values. -/
def heldContent (r : Rule) (args : Arguments) : Option (List Element) :=
  if takesContent r args.named then args.positional.findSome? Argument.items? else (ofNamed r args.named).content

theorem takeContent_ofNamed (r : Rule) (args : Arguments) :
    takeContent r (ofNamed r args.named) args.positional =
      ({ ofNamed r args.named with content := heldContent r args }, Binding.rest r args) := by
  unfold takeContent heldContent Binding.rest
  by_cases hc : r.isContainer = true
  · by_cases hin : Rule.contentSlot ∈ args.named.map Prod.fst
    · obtain ⟨v, hl⟩ := exists_lookup_of_mem hin
      have htake : ¬ takesContent r args.named := fun h => h.2 hin
      simp [ofNamed, hc, hl, htake]
    · have hl := (lookup_eq_none_iff_not_mem _ _).2 hin
      have htake : takesContent r args.named := ⟨hc, hin⟩
      rw [if_pos htake, if_pos htake, firstSequence_eq]
      cases hs : args.positional.findSome? Argument.items? with
      | none => simp [ofNamed, hc, hl, eraseP_of_findSome?_eq_none hs]
      | some items => simp [ofNamed, hc, hl]
  · have htake : ¬ takesContent r args.named := fun h => hc h.1
    simp [hc, htake]

theorem heldContent_getD {r : Rule} (args : Arguments) (hc : r.isContainer = true) :
    (heldContent r args).getD [] = Binding.content r args := by
  unfold heldContent Binding.content
  by_cases htake : takesContent r args.named
  · rw [if_pos htake, if_pos htake]
  · rw [if_neg htake, if_neg htake]
    cases hl : args.named.lookup Rule.contentSlot <;> simp [ofNamed, hc, hl]

/-- **Filling** gives each open parameter the value of its number, and leaves the values beyond. -/
theorem fill_map (named : List (String × Argument)) : ∀ (ps : List Parameter) (values : List Argument),
    (ps.map (·.name)).Nodup →
      let vacancies := (ps.map (·.name)).filter (· ∉ named.map Prod.fst)
      fill (ps.map fun p => named.lookup p.name) values =
        (ps.map fun p => (named.lookup p.name).or values[vacancies.idxOf p.name]?, values.drop vacancies.length)
  | [], values, _ => by simp [fill]
  | p :: ps, values, hnd => by
    rw [List.map_cons, List.nodup_cons] at hnd
    have ih := fun values => fill_map named ps values hnd.2
    dsimp only at ih ⊢
    by_cases hin : p.name ∈ named.map Prod.fst
    · obtain ⟨v, hl⟩ := exists_lookup_of_mem hin
      simp only [List.map_cons, hl, fill, ih, List.filter_cons, hin, not_true, decide_false, Bool.false_eq_true,
        if_false, Option.some_or]
    · have hl := (lookup_eq_none_iff_not_mem _ _).2 hin
      have hother : ∀ q ∈ ps, p.name ≠ q.name := fun q hq heq => hnd.1 (heq ▸ List.mem_map_of_mem hq)
      simp only [List.map_cons, hl, List.filter_cons, hin, not_false_eq_true, decide_true, if_true, Option.none_or,
        List.idxOf_cons_self, List.length_cons]
      cases values with
      | nil => simp [fill]
      | cons v values =>
        simp only [fill, ih, List.getElem?_cons_zero, List.drop_succ_cons]
        congr 2
        apply List.map_congr_left
        intro q hq
        rw [List.idxOf_cons_ne _ (hother q hq), List.getElem?_cons_succ]

theorem openSlots_eq (r : Rule) (named : List (String × Argument)) : openSlots r named =
    (r.parameters.map (·.name)).filter (· ∉ named.map Prod.fst) ++
      if r.isAttachment ∧ Rule.positionSlot ∉ named.map Prod.fst then [Rule.positionSlot] else [] := by
  rw [openSlots, positionalSlots, List.filter_append]
  congr 1
  by_cases ha : r.isAttachment = true
  · by_cases hin : Rule.positionSlot ∈ named.map Prod.fst
    · rw [if_pos ha, if_neg fun h => h.2 hin, List.filter_cons_of_neg (by simpa using hin), List.filter_nil]
    · rw [if_pos ha, if_pos ⟨ha, hin⟩, List.filter_cons_of_pos (by simpa using hin), List.filter_nil]
  · rw [if_neg ha, if_neg fun h => ha h.1, List.filter_nil]

/-- The open parameters come first among the open slots, so their numbers are those that filling counts by. -/
theorem value?_parameter (r : Rule) (args : Arguments) {p : Parameter} (hp : p ∈ r.parameters) :
    Binding.value? r args p.name = (args.named.lookup p.name).or (Binding.rest r args)[
      ((r.parameters.map (·.name)).filter (· ∉ args.named.map Prod.fst)).idxOf p.name]? := by
  unfold Binding.value?
  by_cases hin : p.name ∈ args.named.map Prod.fst
  · obtain ⟨v, hl⟩ := exists_lookup_of_mem hin
    rw [hl, Option.some_or, Option.some_or]
  · have hmem : p.name ∈ (r.parameters.map (·.name)).filter (· ∉ args.named.map Prod.fst) :=
      List.mem_filter.2 ⟨List.mem_map_of_mem hp, by simpa using hin⟩
    rw [openSlots_eq, List.idxOf_append_of_mem hmem]

/-- The position takes the value behind those of the open parameters. -/
theorem fillPosition_drop (h : r.slotNames.Nodup) (args : Arguments) :
    fillPosition r (ofNamed r args.named).position ((Binding.rest r args).drop
        ((r.parameters.map (·.name)).filter (· ∉ args.named.map Prod.fst)).length) =
      (Binding.positionValue? r args, (Binding.rest r args).drop (openSlots r args.named).length) := by
  unfold Binding.positionValue? Binding.value?
  rw [openSlots_eq]
  generalize hopen : (r.parameters.map (·.name)).filter (· ∉ args.named.map Prod.fst) = vacancies
  by_cases ha : r.isAttachment = true
  · simp only [ofNamed, ha, if_true]
    by_cases hin : Rule.positionSlot ∈ args.named.map Prod.fst
    · obtain ⟨v, hl⟩ := exists_lookup_of_mem hin
      simp [fillPosition, hl, hin]
    · have hl := (lookup_eq_none_iff_not_mem _ _).2 hin
      have hno : Rule.positionSlot ∉ vacancies := fun hmem =>
        isAttachment_of_slotNames h ha (List.mem_filter.1 (hopen ▸ hmem)).1
      rw [hl, if_pos ⟨trivial, hin⟩, List.idxOf_append_of_notMem hno, List.length_append, List.idxOf_cons_self,
        List.length_singleton, Option.none_or, Nat.add_zero]
      rw [← List.head?_drop, ← List.tail_drop]
      cases (Binding.rest r args).drop vacancies.length <;> simp [fillPosition, ha]
  · have ha' : r.isAttachment = false := by simpa using ha
    simp only [ha', Bool.false_eq_true, false_and, if_false, List.append_nil]
    cases (Binding.rest r args).drop vacancies.length <;> simp [fillPosition, ofNamed, ha']

/-- **The positional values**: each slot holds its value, and what is left is beyond the open slots. -/
theorem bindPositional_ofNamed (h : r.slotNames.Nodup) (args : Arguments) :
    bindPositional r (ofNamed r args.named) args.positional =
      (⟨r.parameters.map fun p => Binding.value? r args p.name, Binding.positionValue? r args, heldContent r args⟩,
        (Binding.rest r args).drop (openSlots r args.named).length) := by
  have hfill := fill_map args.named r.parameters (Binding.rest r args) (parameters_nodup h)
  have hvalues : r.parameters.map (fun p => (args.named.lookup p.name).or (Binding.rest r args)[
      ((r.parameters.map (·.name)).filter (· ∉ args.named.map Prod.fst)).idxOf p.name]?) =
      r.parameters.map fun p => Binding.value? r args p.name :=
    List.map_congr_left fun p hp => (value?_parameter r args hp).symm
  have hposition := fillPosition_drop h args
  dsimp only at hfill
  rw [hvalues] at hfill
  simp only [bindPositional, takeContent_ofNamed]
  rw [show (ofNamed r args.named).parameters = r.parameters.map fun p => args.named.lookup p.name from rfl, hfill]
  dsimp only
  rw [hposition]

end Slots
end Partitura
