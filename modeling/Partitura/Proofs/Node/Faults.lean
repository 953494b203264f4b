import Mathlib.Data.List.Induction
import Mathlib.Data.List.Nodup
import Partitura.Proofs.Node.Resolution
/-!
# Proofs.Node.Faults — arguments without a fault

What each kind of fault asks of the arguments, so that a node can be shown to be built without going through the binding
again.  Whether the named values are at fault does not depend on their order (`namedFault?_eq_none_iff`).
-/
namespace Partitura

theorem findSome?_congr {α β : Type} {f g : α → Option β} : ∀ {as : List α}, (∀ a ∈ as, f a = g a) →
    as.findSome? f = as.findSome? g
  | [], _ => rfl
  | a :: as, h => by
    rw [List.forall_mem_cons] at h
    rw [List.findSome?_cons, List.findSome?_cons, h.1, findSome?_congr h.2]

namespace Binding

variable {r : Rule} {args : Arguments}

theorem slotNames_eq (r : Rule) :
    r.slotNames = positionalSlots r ++ if r.isContainer then [Rule.contentSlot] else [] := rfl

/-- The content of a container is given by its name or as a sequence, never by its number. -/
theorem content_not_mem_positionalSlots (hs : r.slotNames.Nodup) (hc : r.isContainer = true) :
    Rule.contentSlot ∉ positionalSlots r := by
  intro hmem
  rw [slotNames_eq, if_pos hc, List.nodup_append] at hs
  exact hs.2.2 _ hmem _ (List.mem_singleton_self _) rfl

/-! ## The named values -/

/-- What a named value has to be, whatever stands before it. -/
structure Named (r : Rule) (entry : String × Argument) : Prop where
  slot : entry.1 ∈ r.slotNames
  content : r.isContainer = true → entry.1 = Rule.contentSlot → entry.2.items? ≠ none

theorem entryFault?_eq_none_iff {before : List String} {entry : String × Argument} :
    entryFault? r before entry.1 entry.2 = none ↔ Named r entry ∧ entry.1 ∉ before := by
  unfold entryFault?
  constructor
  · intro h
    split at h
    · cases h
    · rename_i hslot
      split at h
      · cases h
      · rename_i hcontent
        split at h
        · cases h
        · rename_i hbefore
          exact ⟨⟨not_not.1 hslot, fun hc hname hitems => hcontent ⟨hc, hname, hitems⟩⟩, hbefore⟩
  · rintro ⟨⟨hslot, hcontent⟩, hbefore⟩
    rw [if_neg (not_not_intro hslot), if_neg fun h => hcontent h.1 h.2.1 h.2.2, if_neg hbefore]

/-- One more named value is looked at behind the others. -/
theorem namedFault?_concat (r : Rule) (named : List (String × Argument)) (entry : String × Argument) :
    namedFault? r (named ++ [entry]) = (namedFault? r named).or
      ((entryFault? r (named.map Prod.fst) entry.1 entry.2).map .invalidArgument) := by
  have htake : (named ++ [entry]).take named.length = named := List.take_left
  unfold namedFault?
  rw [List.zipIdx_append, List.findSome?_append, List.zipIdx_singleton, List.findSome?_singleton, Nat.zero_add]
  dsimp only
  rw [htake]
  congr 1
  apply findSome?_congr
  rintro ⟨before, i⟩ hbefore
  have hi : i < named.length := (List.mem_zipIdx' hbefore).1
  rw [List.take_append_of_le_length (Nat.le_of_lt hi)]

/-- **Named values without a fault**: each is one for its slot, and no name is repeated. -/
theorem namedFault?_eq_none_iff (named : List (String × Argument)) :
    namedFault? r named = none ↔ (named.map Prod.fst).Nodup ∧ ∀ entry ∈ named, Named r entry := by
  induction named using List.reverseRecOn with
  | nil => simp [namedFault?]
  | append_singleton named entry ih =>
    rw [namedFault?_concat, Option.or_eq_none_iff, Option.map_eq_none_iff, entryFault?_eq_none_iff, ih, List.map_append,
      List.map_singleton, ← List.concat_eq_append, List.nodup_concat, List.forall_mem_append, List.forall_mem_singleton]
    constructor
    · rintro ⟨⟨hnodup, hnamed⟩, hentry, hnew⟩
      exact ⟨⟨hnew, hnodup⟩, hnamed, hentry⟩
    · rintro ⟨⟨hnew, hnodup⟩, hnamed, hentry⟩
      exact ⟨⟨hnodup, hnamed⟩, hentry, hnew⟩

/-- **The order of the named values** does not matter to whether they are at fault. -/
theorem namedFault?_eq_none_of_perm {named named' : List (String × Argument)} (h : named.Perm named')
    (hf : namedFault? r named = none) : namedFault? r named' = none := by
  rw [namedFault?_eq_none_iff] at hf ⊢
  exact ⟨(h.map Prod.fst).nodup_iff.1 hf.1, fun entry he => hf.2 entry (h.mem_iff.2 he)⟩

/-! ## The other faults -/

theorem surplusFault?_eq_none_iff :
    surplusFault? r args = none ↔ (rest r args).length ≤ (openSlots r args.named).length := by
  rw [surplusFault?, Option.map_eq_none_iff, List.getElem?_eq_none_iff]

theorem missingFault?_eq_none_iff : missingFault? r args = none ↔
    ∀ p ∈ r.parameters, p.optional = false → value? r args p.name ≠ none := by
  rw [missingFault?_eq, Option.map_eq_none_iff, List.find?_eq_none]
  simp only [Bool.and_eq_true, Bool.not_eq_true', Option.isNone_iff_eq_none, not_and, ne_eq]

theorem kindFault?_eq_none_iff : kindFault? r args = none ↔
    ∀ p ∈ r.parameters, ∀ value, value? r args p.name = some value → p.take? value ≠ none := by
  rw [kindFault?, List.findSome?_eq_none_iff]
  simp only [Option.bind_eq_none_iff, Parameter.fault?, ite_eq_right_iff, reduceCtorEq, imp_false,
    Option.isNone_iff_eq_none, ne_eq]

theorem contentFault?_eq_none_iff : contentFault? r args = none ↔
    ∀ allowed, r.content = some allowed → ∀ child ∈ content r args, allowed.intersects child.categories = true := by
  simp only [contentFault?, Option.bind_eq_bind, Option.bind_eq_none_iff, Option.pure_def, reduceCtorEq, imp_false,
    ← Option.eq_none_iff_forall_ne_some, List.find?_eq_none, Bool.not_eq_true', Bool.not_eq_false]

theorem positionFault?_eq_none_iff : positionFault? r args = none ↔
    ∀ value, positionValue? r args = some value → value.position? ≠ none := by
  simp only [positionFault?, Option.bind_eq_bind, Option.bind_eq_none_iff, ite_eq_right_iff, reduceCtorEq, imp_false,
    Option.isNone_iff_eq_none, ne_eq]

theorem fault?_eq_none_iff : fault? r args = none ↔
    namedFault? r args.named = none ∧ surplusFault? r args = none ∧ missingFault? r args = none ∧
      kindFault? r args = none ∧ contentFault? r args = none ∧ positionFault? r args = none := by
  simp [fault?]

/-- What a parameter is bound to, with its name. -/
def bound? (r : Rule) (args : Arguments) (p : Parameter) : Option (String × Value) :=
  ((value? r args p.name).bind p.take?).map (p.name, ·)

theorem node_parameters (r : Rule) (args : Arguments) :
    (node r args).parameters = r.parameters.filterMap (bound? r args) := rfl

theorem children_node (hc : r.isContainer = true) : (node r args).children = some (content r args) := by
  obtain ⟨allowed, hallowed⟩ := Option.isSome_iff_exists.1 hc
  rw [node, hallowed]
  rfl

/-- **A node is built** if nothing is at fault, and is the one whose slots hold their values. -/
theorem ofArguments_eq_ok_iff (hs : r.slotNames.Nodup) {n : Node} :
    Node.ofArguments r args = .ok n ↔ fault? r args = none ∧ n = node r args := by
  rw [ofArguments_eq_built r args hs, built]
  cases fault? r args with
  | some e => simp
  | none => simp [eq_comm]

theorem ofArguments_eq_error_iff (hs : r.slotNames.Nodup) {e : ScoreError} :
    Node.ofArguments r args = .error e ↔ fault? r args = some e := by
  rw [ofArguments_eq_built r args hs, built]
  cases fault? r args with
  | some e' => simp
  | none => simp

end Binding
end Partitura
