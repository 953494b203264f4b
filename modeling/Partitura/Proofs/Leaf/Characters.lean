import Partitura.Leaf
import Partitura.Proofs.Color.Families
/-!
# Proofs.Leaf.Characters — what the words among literals are made of

Numbers, symbols, directions, axes and the names of colors are words: every character of theirs may stand in a symbol
(`IsWord`).  So they have neither blanks nor quotes, parentheses or markers in them.
-/
namespace Partitura

/-- **A word**: characters that may stand in a symbol. -/
def IsWord (cs : List Char) : Prop := ∀ c ∈ cs, isSymbolChar c = true

instance (cs : List Char) : Decidable (IsWord cs) := decidable_of_iff (cs.all isSymbolChar = true) List.all_eq_true

theorem isWord_nil : IsWord [] := nofun

theorem isWord_append_iff {cs ds : List Char} : IsWord (cs ++ ds) ↔ IsWord cs ∧ IsWord ds := List.forall_mem_append

theorem isWord_cons_iff {c : Char} {cs : List Char} : IsWord (c :: cs) ↔ isSymbolChar c = true ∧ IsWord cs :=
  List.forall_mem_cons

theorem isWord_replicate {n : Nat} {c : Char} (h : isSymbolChar c = true) : IsWord (List.replicate n c) :=
  fun _ hc => List.eq_of_mem_replicate hc ▸ h

theorem IsWord.not_mem {cs : List Char} (h : IsWord cs) {c : Char} (hc : isSymbolChar c = false) : c ∉ cs :=
  fun hmem => absurd (h c hmem) (Bool.eq_false_iff.1 hc)

theorem isSymbolChar_of_isLetter {c : Char} (h : Text.isLetter c = true) : isSymbolChar c = true := by
  rw [isSymbolChar, isSymbolStart, h]
  rfl

theorem isSymbolChar_of_isDigit {c : Char} (h : Text.isDigit c = true) : isSymbolChar c = true := by
  rw [isSymbolChar, h, Bool.or_true, Bool.true_or]

/-- The characters of symbols are printed ones of ASCII, behind the space. -/
theorem bounds_of_isSymbolChar {c : Char} (h : isSymbolChar c = true) : 0x20 < c.toNat ∧ c.toNat < 0x7F := by
  have hsigns : ∀ signs : List Char, signs.all (fun c => 0x20 < c.toNat ∧ c.toNat < 0x7F) = true → c ∈ signs →
      0x20 < c.toNat ∧ c.toNat < 0x7F :=
    fun _ hall hc => of_decide_eq_true (List.all_eq_true.1 hall c hc)
  simp only [isSymbolChar, isSymbolStart, Bool.or_eq_true, List.contains_iff_mem] at h
  rcases h with ((hletter | hsign) | hdigit) | hsign
  · have hbounds : (97 ≤ c.toNat ∧ c.toNat ≤ 122) ∨ (65 ≤ c.toNat ∧ c.toNat ≤ 90) := by
      simpa [Text.isLetter, Char.le_def, UInt32.le_iff_toNat_le] using hletter
    omega
  · exact hsigns _ (by decide) hsign
  · have hbounds : 48 ≤ c.toNat ∧ c.toNat ≤ 57 := by
      simpa [Text.isDigit, Char.le_def, UInt32.le_iff_toNat_le] using hdigit
    omega
  · exact hsigns _ (by decide) hsign

theorem not_isBlank_of_isSymbolChar {c : Char} (h : isSymbolChar c = true) : Text.isBlank c = false := by
  have hbounds := bounds_of_isSymbolChar h
  simp only [Text.isBlank, Bool.or_eq_false_iff, Bool.and_eq_false_iff, decide_eq_false_iff_not, beq_eq_false_iff_ne]
  omega

/-! ## Numbers -/

/-- The characters of a number: a minus sign may come first, and digits follow. -/
theorem Leaf.toList_repr (z : Int) : ∃ digits : List Char, digits ≠ [] ∧ (∀ c ∈ digits, Text.isDigit c = true) ∧
    (z.repr.toList = digits ∨ z.repr.toList = '-' :: digits) := by
  have hsome : ∀ n : Nat, n.repr.toList ≠ [] := fun n => by
    rw [Nat.toList_repr]
    exact Nat.toDigits_ne_nil
  rw [Int.repr_eq_if]
  split
  · exact ⟨_, hsome z.toNat, fun _ => Text.isDigit_of_mem_repr, .inl rfl⟩
  · refine ⟨_, hsome (-z).toNat, fun _ => Text.isDigit_of_mem_repr, .inr ?_⟩
    rw [String.toList_append]
    rfl

theorem isWord_natRepr (n : Nat) : IsWord n.repr.toList :=
  fun _ hc => isSymbolChar_of_isDigit (Text.isDigit_of_mem_repr hc)

theorem isWord_intRepr (z : Int) : IsWord z.repr.toList := by
  obtain ⟨digits, -, hdigits, heq | heq⟩ := Leaf.toList_repr z
  · rw [heq]
    exact fun c hc => isSymbolChar_of_isDigit (hdigits c hc)
  · rw [heq, isWord_cons_iff]
    exact ⟨by decide, fun c hc => isSymbolChar_of_isDigit (hdigits c hc)⟩

namespace Decimal

theorem isWord_positional {ds : List Char} (h : IsWord ds) (place : Int) : IsWord (positional ds place) := by
  have hzeros : ∀ n, IsWord (List.replicate n '0') := fun n => isWord_replicate (by decide)
  have htake : IsWord (ds.take place.toNat) := fun c hc => h c (List.mem_of_mem_take hc)
  have hdrop : IsWord (ds.drop place.toNat) := fun c hc => h c (List.mem_of_mem_drop hc)
  unfold positional
  split
  · exact isWord_append_iff.2 ⟨isWord_cons_iff.2 ⟨by decide, isWord_cons_iff.2 ⟨by decide, hzeros _⟩⟩, h⟩
  · split
    · exact isWord_append_iff.2 ⟨isWord_append_iff.2 ⟨h, hzeros _⟩, by decide⟩
    · exact isWord_append_iff.2 ⟨htake, isWord_cons_iff.2 ⟨by decide, hdrop⟩⟩

theorem isWord_scientific {ds : List Char} (h : IsWord ds) (place : Int) : IsWord (scientific ds place) := by
  have htake : IsWord (ds.take 1) := fun c hc => h c (List.mem_of_mem_take hc)
  have hdrop : IsWord (ds.drop 1) := fun c hc => h c (List.mem_of_mem_drop hc)
  have hfraction : IsWord (if ds.length ≤ 1 then [] else '.' :: ds.drop 1) := by
    split
    · exact isWord_nil
    · exact isWord_cons_iff.2 ⟨by decide, hdrop⟩
  exact isWord_append_iff.2
    ⟨isWord_append_iff.2 ⟨htake, hfraction⟩, isWord_cons_iff.2 ⟨by decide, isWord_intRepr (place - 1)⟩⟩

theorem isWord_text (d : Decimal) : IsWord d.text := by
  have hdigits : IsWord d.digits.1 := by
    intro c hc
    have hall : c ∈ Nat.toDigits 10 d.coefficient :=
      List.mem_reverse.1 ((List.dropWhile_sublist _).subset (List.mem_reverse.1 hc))
    rw [← Nat.toList_repr] at hall
    exact isWord_natRepr _ c hall
  unfold text
  dsimp only
  split
  · exact isWord_positional hdigits _
  · exact isWord_scientific hdigits _

theorem text_ne_nil (d : Decimal) : d.text ≠ [] := by
  unfold text positional scientific
  dsimp only
  repeat' split
  all_goals simp

end Decimal

theorem Binary64.isWord_text (x : Binary64) : IsWord x.text.toList := by
  have hsign : IsWord (if x.isNegative then ['-'] else []) := by split <;> decide
  unfold Binary64.text
  dsimp only
  split
  · rw [String.toList_ofList]
    exact isWord_append_iff.2 ⟨hsign, by decide⟩
  · split
    · rw [String.toList_ofList]
      exact isWord_append_iff.2 ⟨hsign, x.shortest.isWord_text⟩
    · split
      · rw [String.toList_ofList]
        exact isWord_append_iff.2 ⟨hsign, by decide⟩
      · decide

theorem Binary64.toList_text_ne_nil (x : Binary64) : x.text.toList ≠ [] := by
  have hshortest := x.shortest.text_ne_nil
  unfold Binary64.text
  dsimp only
  repeat' split
  all_goals simp [hshortest]

/-! ## Symbols and colors -/

theorem Symbol.isWord_name (s : Symbol) : IsWord s.name.toList := by
  have hname := s.wellFormed
  unfold isSymbol at hname
  split at hname
  · cases hname
  · next c cs hcs =>
    rw [Bool.and_eq_true, List.all_eq_true] at hname
    rw [hcs, isWord_cons_iff, isSymbolChar, hname.1]
    exact ⟨rfl, hname.2⟩

theorem Color.isWord_name (c : Color) : IsWord c.name.toList := by
  obtain ⟨stem, digits, hname, hstem, hdigits, -⟩ :=
    ColorFamily.exists_forms (ColorFamily.of?_eq_some_iff.1 c.known)
  rw [hname, isWord_append_iff]
  exact ⟨fun c hc => isSymbolChar_of_isLetter (hstem c hc), fun c hc => isSymbolChar_of_isDigit (hdigits c hc)⟩

end Partitura
