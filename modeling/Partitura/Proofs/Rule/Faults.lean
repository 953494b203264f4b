import Partitura.Proofs.Rule.Checked
/-!
# Proofs.Rule.Faults — what is wrong with a rule

A rule is unambiguous if its names are identifiers, its tag keeps to its alphabet, its slots have names of their own and
its delimiters stay on a line.  The faults of a rule are listed in one order, whichever of them it has; the check answers
with the first of them, and passes exactly the unambiguous rules (`Rule.check_exact`).
-/
namespace Partitura

/-! ## Alphabets -/

namespace Text

def letters : List Char := "ABCDEFGHIJKLMNOPQRSTUVWXYZabcdefghijklmnopqrstuvwxyz".toList

def digits : List Char := "0123456789".toList

/-- What an identifier goes on with. -/
def wordChars : List Char := letters ++ digits ++ ['_']

/-- Characters that follow each other in ASCII. -/
theorem mem_map_ofNat_range'_iff {first count : Nat} (h : first + count ≤ 128) {c : Char} :
    c ∈ (List.range' first count).map Char.ofNat ↔ first ≤ c.toNat ∧ c.toNat < first + count := by
  rw [List.mem_map]
  constructor
  · rintro ⟨n, hn, rfl⟩
    have hbounds := List.mem_range'_1.1 hn
    have hvalid : n.isValidChar := .inl (by omega)
    have hnumber : (Char.ofNat n).toNat = n := by
      rw [Char.ofNat, dif_pos hvalid]
      rfl
    rwa [hnumber]
  · exact fun hc => ⟨c.toNat, List.mem_range'_1.2 hc, Char.ofNat_toNat c⟩

theorem isLetter_iff {c : Char} : isLetter c = true ↔ c ∈ letters := by
  have hletters : letters = (List.range' 65 26).map Char.ofNat ++ (List.range' 97 26).map Char.ofNat := by decide
  have hbounds : isLetter c = true ↔ (97 ≤ c.toNat ∧ c.toNat ≤ 122) ∨ (65 ≤ c.toNat ∧ c.toNat ≤ 90) := by
    simp [isLetter, Char.le_def, UInt32.le_iff_toNat_le]
  rw [hbounds, hletters, List.mem_append, mem_map_ofNat_range'_iff (by decide), mem_map_ofNat_range'_iff (by decide)]
  omega

theorem isDigit_iff {c : Char} : isDigit c = true ↔ c ∈ digits := by
  have hdigits : digits = (List.range' 48 10).map Char.ofNat := by decide
  have hbounds : isDigit c = true ↔ 48 ≤ c.toNat ∧ c.toNat ≤ 57 := by
    simp [isDigit, Char.le_def, UInt32.le_iff_toNat_le]
  rw [hbounds, hdigits, mem_map_ofNat_range'_iff (by decide)]
  omega

theorem isWordChar_iff {c : Char} : isWordChar c = true ↔ c ∈ wordChars := by
  rw [isWordChar, wordChars, List.mem_append, List.mem_append, List.mem_singleton, Bool.or_eq_true, Bool.or_eq_true,
    isLetter_iff, isDigit_iff, beq_iff_eq]

/-- **An identifier**: one of these characters, and word characters behind it. -/
def IsIdentifier (initials : List Char) (name : String) : Prop :=
  ∃ c cs, name.toList = c :: cs ∧ c ∈ initials ∧ ∀ d ∈ cs, d ∈ wordChars

/-- A test of the first character and of the others. -/
theorem isIdentifier_iff {initials : List Char} {test : List Char → Bool} {isInitial : Char → Bool}
    (hnil : test [] = false) (hcons : ∀ c cs, test (c :: cs) = (isInitial c && cs.all isWordChar))
    (hinitial : ∀ c, isInitial c = true ↔ c ∈ initials) (name : String) :
    test name.toList = true ↔ IsIdentifier initials name := by
  unfold IsIdentifier
  cases name.toList with
  | nil => simp [hnil]
  | cons c cs => simp [hcons, hinitial, isWordChar_iff]

/-- A text over an alphabet. -/
def OnlyOf (alphabet : List Char) (text : String) : Prop := ∀ c ∈ text.toList, c ∈ alphabet

-- Not by instances: there is one that goes through all characters.
instance (alphabet : List Char) (text : String) : Decidable (OnlyOf alphabet text) :=
  List.decidableBAll (· ∈ alphabet) text.toList

/-- A text that no line break is in. -/
def Unbroken (text : String) : Prop := '\n' ∉ text.toList ∧ '\r' ∉ text.toList

instance (text : String) : Decidable (Unbroken text) := inferInstanceAs (Decidable (_ ∧ _))

theorem unbroken_iff (text : String) :
    (!text.toList.any fun c => c == '\n' || c == '\r') = true ↔ Unbroken text := by
  simp only [Unbroken, Bool.not_eq_true', List.any_eq_false, Bool.or_eq_true, beq_iff_eq, not_or]
  exact ⟨fun h => ⟨fun hc => (h _ hc).1 rfl, fun hc => (h _ hc).2 rfl⟩,
    fun h c hc => ⟨fun heq => h.1 (heq ▸ hc), fun heq => h.2 (heq ▸ hc)⟩⟩

end Text

namespace Rule

open Text (IsIdentifier OnlyOf Unbroken)

def tagAlphabet : List Char := Text.wordChars ++ "\\/%-".toList

theorem isElementName_iff (name : String) :
    isElementName name.toList = true ↔ IsIdentifier ('_' :: Text.letters) name := by
  refine Text.isIdentifier_iff rfl (fun _ _ => rfl) (fun c => ?_) name
  rw [Bool.or_eq_true, Text.isLetter_iff, beq_iff_eq, List.mem_cons, or_comm]

theorem isParameterName_iff (name : String) :
    isParameterName name.toList = true ↔ IsIdentifier Text.letters name :=
  Text.isIdentifier_iff rfl (fun _ _ => rfl) (fun _ => Text.isLetter_iff) name

theorem isTagChar_iff {c : Char} : isTagChar c = true ↔ c ∈ tagAlphabet := by
  simp [isTagChar, tagAlphabet, Text.isWordChar_iff, or_assoc]

theorem isTag_iff (tag : String) : tag.toList.all isTagChar = true ↔ OnlyOf tagAlphabet tag := by
  simp only [List.all_eq_true, isTagChar_iff, OnlyOf]

instance (name : String) : Decidable (IsIdentifier ('_' :: Text.letters) name) :=
  decidable_of_iff _ (isElementName_iff name)

instance (name : String) : Decidable (IsIdentifier Text.letters name) := decidable_of_iff _ (isParameterName_iff name)

/-! ## Faults -/

/-- **A rule that binding and rendering can rely on.** -/
structure Unambiguous (r : Rule) : Prop where
  name : IsIdentifier ('_' :: Text.letters) r.name
  tag : OnlyOf tagAlphabet r.tag
  parameters : ∀ p ∈ r.parameters, IsIdentifier Text.letters p.name
  slots : r.slotNames.Nodup
  opening : Unbroken r.opening
  closing : Unbroken r.closing

/-- The faults of a parameter that stands behind those with these names. -/
def parameterFaults (r : Rule) (before : List String) (p : Parameter) : List RuleError :=
  faultUnless (IsIdentifier Text.letters p.name) (.invalidParameterName r.name p.name) ++
    faultUnless (p.name ∉ r.implicitSlots) (.reservedParameter r.name p.name) ++
    faultUnless (p.name ∉ before) (.duplicateParameter r.name p.name)

/-- **All that is wrong with a rule**: its name, its tag, its parameters from left to right, its delimiters. -/
def faults (r : Rule) : List RuleError :=
  faultUnless (IsIdentifier ('_' :: Text.letters) r.name) (.invalidName r.name) ++
    faultUnless (OnlyOf tagAlphabet r.tag) (.invalidTag r.name r.tag) ++
    r.parameters.zipIdx.flatMap (fun place => r.parameterFaults ((r.parameters.take place.2).map (·.name)) place.1) ++
    faultUnless (Unbroken r.opening) (.invalidDelimiter r.name r.opening) ++
    faultUnless (Unbroken r.closing) (.invalidDelimiter r.name r.closing)

/-! ## The first fault -/

variable (r : Rule)

theorem failsFirst_checkDelimiter (delimiter : String) : FailsFirst (r.checkDelimiter delimiter)
    (faultUnless (Unbroken delimiter) (.invalidDelimiter r.name delimiter)) := by
  rw [checkDelimiter_eq]
  exact failsFirst_demand (Text.unbroken_iff delimiter) _

/-- The induction is on the parameters that are left; `before` are those that were passed, whose names have been
seen. -/
theorem failsFirst_checkParameters : ∀ (before ps : List Parameter) (seen : List String),
    (∀ name, name ∈ seen ↔ name ∈ before.map (·.name)) →
      FailsFirst (r.checkParameters seen ps) ((ps.zipIdx before.length).flatMap fun place =>
        r.parameterFaults (((before ++ ps).take place.2).map (·.name)) place.1)
  | _, [], _, _ => failsFirst_ok ()
  | before, p :: ps, seen, hseen => by
    have hname := failsFirst_demand (isParameterName_iff p.name) (RuleError.invalidParameterName r.name p.name)
    have hreserved : FailsFirst (demand (!r.reserves p.name) (RuleError.reservedParameter r.name p.name))
        (faultUnless (p.name ∉ r.implicitSlots) (RuleError.reservedParameter r.name p.name)) := by
      refine failsFirst_demand ?_ _
      rw [Bool.not_eq_true', Bool.eq_false_iff, ne_eq, reserves_iff]
    have hrepeated : FailsFirst (demand (!seen.contains p.name) (RuleError.duplicateParameter r.name p.name))
        (faultUnless (p.name ∉ before.map (·.name)) (RuleError.duplicateParameter r.name p.name)) := by
      refine failsFirst_demand ?_ _
      rw [Bool.not_eq_true', Bool.eq_false_iff, ne_eq, List.contains_iff_mem, hseen]
    have hrest := failsFirst_checkParameters (before ++ [p]) ps (p.name :: seen) fun name => by
      rw [List.mem_cons, hseen, List.map_append, List.mem_append, List.map_singleton, List.mem_singleton, or_comm]
    rw [List.length_append, List.length_singleton, List.append_assoc, List.singleton_append] at hrest
    rw [checkParameters_cons, List.zipIdx_cons, List.flatMap_cons]
    dsimp only
    rw [List.take_left, parameterFaults, List.append_assoc, List.append_assoc]
    exact hname.bind fun _ => hreserved.bind fun _ => hrepeated.bind fun _ => hrest

theorem failsFirst_check : FailsFirst r.check r.faults := by
  have htag : FailsFirst (demand (r.tag.toList.all isTagChar) (RuleError.invalidTag r.name r.tag))
      (faultUnless (OnlyOf tagAlphabet r.tag) (RuleError.invalidTag r.name r.tag)) :=
    failsFirst_demand (isTag_iff r.tag) _
  have hparameters := r.failsFirst_checkParameters [] r.parameters [] fun _ => Iff.rfl
  rw [check_eq, faults]
  simp only [List.append_assoc]
  exact (failsFirst_demand (isElementName_iff r.name) _).bind fun _ => htag.bind fun _ => hparameters.bind fun _ =>
    (r.failsFirst_checkDelimiter r.opening).bind fun _ => r.failsFirst_checkDelimiter r.closing

/-- **The check accepts exactly the unambiguous rules**, and answers of every other rule with the first of its faults. -/
theorem check_exact :
    (r.check = .ok () ↔ r.Unambiguous) ∧ ∀ e, r.check = .error e ↔ r.faults.head? = some e := by
  refine ⟨?_, r.failsFirst_check⟩
  have hparameters : r.checkParameters [] r.parameters = .ok () ↔
      (∀ p ∈ r.parameters, IsIdentifier Text.letters p.name) ∧ r.slotNames.Nodup := by
    simp only [checkParameters_eq_ok_iff, slotNames_nodup_iff, isParameterName_iff, ← reserves_iff, forall_and,
      Bool.not_eq_true, List.not_mem_nil, not_false_eq_true, and_true]
    tauto
  rw [check_eq_ok_iff, hparameters, isElementName_iff, isTag_iff, checkDelimiter_eq, checkDelimiter_eq,
    demand_eq_ok_iff, demand_eq_ok_iff, Text.unbroken_iff, Text.unbroken_iff]
  exact ⟨fun ⟨hname, htag, ⟨hidentifiers, hslots⟩, hopening, hclosing⟩ =>
      ⟨hname, htag, hidentifiers, hslots, hopening, hclosing⟩,
    fun h => ⟨h.name, h.tag, ⟨h.parameters, h.slots⟩, h.opening, h.closing⟩⟩

/-- Everything is wrong with it but the tag: the second parameter takes the name of the content and of the first. -/
example : faults { container "2" "\\f" .empty .empty with
    parameters := [⟨"content", .any, false⟩, ⟨"content", .any, false⟩, ⟨"_", .any, true⟩], opening := "\n" } =
    [.invalidName "2", .reservedParameter "2" "content", .reservedParameter "2" "content",
      .duplicateParameter "2" "content", .invalidParameterName "2" "_", .invalidDelimiter "2" "\n"] := by
  decide

end Rule
end Partitura
