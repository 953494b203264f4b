import Partitura.Color
import Partitura.Proofs.Text.Tokens
/-!
# Proofs.Color.Families — the families of color names

The test of a family accepts the names that the family is documented with (`ColorFamily.Names`), and that of the grey
ramp accepts more: numerals with zeros before them (`ColorFamily.test_iff`).  Every name that is accepted falls into
letters and digits in one way, and these tell its family; so no name is in two families, and the order in which they are
tried does not matter.
-/
namespace Partitura

/-! ## Numerals and the zeros before them -/

namespace Text

theorem digitChar_of_isDigit {c : Char} (h : isDigit c = true) :
    c.toNat - 48 < 10 ∧ (c.toNat - 48).digitChar = c := by
  have hbounds : 48 ≤ c.toNat ∧ c.toNat ≤ 57 := by
    simpa [isDigit, Char.le_def, UInt32.le_iff_toNat_le] using h
  have hlt : c.toNat - 48 < 10 := by omega
  refine ⟨hlt, Char.toNat_inj.1 ?_⟩
  rw [Nat.toNat_digitChar_of_lt_ten hlt]
  omega

/-- Digits behind the numeral of a number other than zero make a numeral. -/
theorem toDigits_append : ∀ {cs : List Char} {n : Nat}, (∀ c ∈ cs, isDigit c = true) → 0 < n →
    Nat.toDigits 10 n ++ cs = Nat.toDigits 10 (Nat.ofDigitChars 10 cs n)
  | [], n, _, _ => by rw [Nat.ofDigitChars_nil, List.append_nil]
  | c :: cs, n, hdigits, hn => by
    rw [List.forall_mem_cons] at hdigits
    obtain ⟨hlt, hchar⟩ := digitChar_of_isDigit hdigits.1
    have hstep := Nat.toDigits_append_toDigits (by decide) hn hlt
    rw [Nat.toDigits_of_lt_base hlt, hchar] at hstep
    rw [Nat.ofDigitChars_cons, List.append_cons, hstep]
    exact toDigits_append hdigits.2 (by omega)

/-- **Digits are zeros and the numeral of their number.** -/
theorem exists_zeros_append : ∀ {cs : List Char}, cs ≠ [] → (∀ c ∈ cs, isDigit c = true) →
    ∃ zeros, cs = List.replicate zeros '0' ++ Nat.toDigits 10 (Nat.ofDigitChars 10 cs 0)
  | [], hne, _ => absurd rfl hne
  | c :: cs, _, hdigits => by
    rw [List.forall_mem_cons] at hdigits
    obtain ⟨hlt, hchar⟩ := digitChar_of_isDigit hdigits.1
    have hnumber : Nat.ofDigitChars 10 (c :: cs) 0 = Nat.ofDigitChars 10 cs (c.toNat - 48) := by
      rw [Nat.ofDigitChars_cons, Nat.mul_zero, Nat.zero_add]
      rfl
    rw [hnumber]
    -- A zero is one more before the rest; any other digit begins the numeral.
    rcases Nat.eq_zero_or_pos (c.toNat - 48) with hzero | hpos
    · rw [hzero] at hchar ⊢
      cases cs with
      | nil => exact ⟨0, by rw [← hchar]; decide⟩
      | cons d ds =>
        obtain ⟨zeros, hzeros⟩ := exists_zeros_append (List.cons_ne_nil d ds) hdigits.2
        refine ⟨zeros + 1, ?_⟩
        rw [List.replicate_succ, List.cons_append, ← hzeros, ← hchar]
        rfl
    · have hnumeral := toDigits_append hdigits.2 hpos
      rw [Nat.toDigits_of_lt_base hlt, hchar] at hnumeral
      exact ⟨0, hnumeral⟩

/-- Only the numeral of zero begins with a zero. -/
theorem eq_zero_of_toDigits (n : Nat) : ∀ {cs : List Char}, Nat.toDigits 10 n = '0' :: cs → n = 0 := by
  induction n using Nat.strongRecOn with
  | ind n ih =>
    intro cs h
    by_cases hlt : n < 10
    · rw [Nat.toDigits_of_lt_base hlt, List.cons.injEq] at h
      exact Nat.digitChar_eq_zero.1 h.1
    · rw [Nat.toDigits_of_base_le (by decide) (by omega)] at h
      obtain ⟨c, front, hfront⟩ := List.exists_cons_of_ne_nil (Nat.toDigits_ne_nil (n := n / 10) (b := 10))
      rw [hfront, List.cons_append, List.cons.injEq] at h
      rw [h.1] at hfront
      have := ih (n / 10) (by omega) hfront
      omega

end Text

namespace ColorFamily

open Text (isDigit isLetter)

/-! ## The test of each family -/

/-- Does a family's own test accept a name? -/
def test (name : String) : ColorFamily → Bool
  | normal => Palette.normal.contains name
  | x11 => Palette.x11.contains name
  | numbered => isNumbered name.toList
  | grey => isGrey name.toList

/-- **The names of a family**: those of its table, a base with a number from 1 to 4, or `grey` with the numeral of a
level up to 100. -/
def Names : ColorFamily → String → Prop
  | normal, name => name ∈ Palette.normal
  | x11, name => name ∈ Palette.x11
  | numbered, name => ∃ base ∈ Palette.numberedBases, ∃ number ∈ [1, 2, 3, 4], name = base ++ Nat.repr number
  | grey, name => ∃ level ≤ 100, name = "grey" ++ Nat.repr level

/-- **A padded grey**: zeros before the numeral of its level, three characters at most. -/
def IsPadded (name : String) : Prop :=
  ∃ zeros level : Nat, 0 < zeros ∧ zeros + level.repr.length ≤ 3 ∧
    name = "grey" ++ String.ofList (List.replicate zeros '0') ++ level.repr

theorem digit_iff {d : Char} : ('1' ≤ d ∧ d ≤ '4') ↔ ∃ number ∈ [1, 2, 3, 4], [d] = (Nat.repr number).toList := by
  constructor
  · intro h
    have hcases : d.toNat = 49 ∨ d.toNat = 50 ∨ d.toNat = 51 ∨ d.toNat = 52 := by
      have hbounds : 49 ≤ d.toNat ∧ d.toNat ≤ 52 := by
        simpa [Char.le_def, UInt32.le_iff_toNat_le] using h
      omega
    have hchar : d = '1' ∨ d = '2' ∨ d = '3' ∨ d = '4' :=
      hcases.imp (Char.toNat_inj.1 ·) (.imp (Char.toNat_inj.1 ·) (.imp (Char.toNat_inj.1 ·) (Char.toNat_inj.1 ·)))
    rcases hchar with rfl | rfl | rfl | rfl <;> decide
  · rintro ⟨number, hnumber, hd⟩
    have hchars : [1, 2, 3, 4].all (fun n => (Nat.repr n).toList.all fun d => '1' ≤ d ∧ d ≤ '4') = true := by decide
    have hnumeral := List.all_eq_true.1 hchars number hnumber
    exact of_decide_eq_true (List.all_eq_true.1 hnumeral d (hd ▸ List.mem_singleton_self d))

theorem isNumbered_iff {name : String} : isNumbered name.toList = true ↔ numbered.Names name := by
  unfold isNumbered Names
  constructor
  · intro h
    split at h
    · next d hlast =>
      obtain ⟨front, hfront⟩ := List.getLast?_eq_some_iff.1 hlast
      simp only [hfront, List.dropLast_concat, Bool.and_eq_true, decide_eq_true_eq, List.contains_iff_mem] at h
      obtain ⟨number, hnumber, hd⟩ := digit_iff.1 h.1
      refine ⟨_, h.2, number, hnumber, String.toList_inj.1 ?_⟩
      rw [hfront, String.toList_append, String.toList_ofList, ← hd]
    · cases h
  · rintro ⟨base, hbase, number, hnumber, rfl⟩
    have hsingle : ∀ number ∈ [1, 2, 3, 4], ∃ d, [d] = (Nat.repr number).toList := by
      simp only [List.forall_mem_cons]
      exact ⟨⟨'1', rfl⟩, ⟨'2', rfl⟩, ⟨'3', rfl⟩, ⟨'4', rfl⟩, nofun⟩
    obtain ⟨d, hd⟩ := hsingle number hnumber
    rw [String.toList_append, ← hd, List.getLast?_concat]
    simp only [List.dropLast_concat, String.ofList_toList, Bool.and_eq_true, decide_eq_true_eq, List.contains_iff_mem]
    exact ⟨digit_iff.2 ⟨number, hnumber, hd⟩, hbase⟩

/-! ## The grey ramp -/

theorem level_zeros_append (zeros n : Nat) : level (List.replicate zeros '0' ++ Nat.toDigits 10 n) = n := by
  have hlevel : ∀ ds, level ds = Nat.ofDigitChars 10 ds 0 := fun ds => Nat.ofDigitChars_eq_foldl.symm
  rw [hlevel, Nat.ofDigitChars_append, Nat.ofDigitChars_replicate_zero, Nat.mul_zero, Nat.ofDigitChars_ten_toDigits]

theorem isDigit_of_mem_zeros_append (zeros n : Nat) :
    ∀ c ∈ List.replicate zeros '0' ++ Nat.toDigits 10 n, isDigit c = true := by
  intro c hc
  rcases List.mem_append.1 hc with hc | hc
  · rw [List.eq_of_mem_replicate hc]
    rfl
  · rw [← Nat.toList_repr] at hc
    exact Text.isDigit_of_mem_repr hc

/-- The test of the grey ramp takes a level with or without zeros before its numeral. -/
theorem isGrey_iff {cs : List Char} : isGrey cs = true ↔ ∃ zeros n : Nat,
    zeros + (Nat.toDigits 10 n).length ≤ 3 ∧ n ≤ 100 ∧
      cs = "grey".toList ++ (List.replicate zeros '0' ++ Nat.toDigits 10 n) := by
  constructor
  · intro h
    unfold isGrey at h
    split at h
    · next ds =>
      simp only [Bool.and_eq_true, Bool.not_eq_true', List.isEmpty_eq_false_iff, decide_eq_true_eq,
        List.all_eq_true] at h
      obtain ⟨⟨⟨hsome, hlength⟩, hdigits⟩, hlevel⟩ := h
      obtain ⟨zeros, hzeros⟩ := Text.exists_zeros_append hsome hdigits
      rw [hzeros, level_zeros_append] at hlevel
      rw [hzeros, List.length_append, List.length_replicate] at hlength
      exact ⟨zeros, _, hlength, hlevel, congrArg ("grey".toList ++ ·) hzeros⟩
    · cases h
  · rintro ⟨zeros, n, hlength, hn, rfl⟩
    have hsome : List.replicate zeros '0' ++ Nat.toDigits 10 n ≠ [] := by
      simp [Nat.toDigits_ne_nil]
    have hlength' : (List.replicate zeros '0' ++ Nat.toDigits 10 n).length ≤ 3 := by
      rwa [List.length_append, List.length_replicate]
    have hlevel : level (List.replicate zeros '0' ++ Nat.toDigits 10 n) ≤ 100 := by rwa [level_zeros_append]
    have hdigits := List.all_eq_true.2 (isDigit_of_mem_zeros_append zeros n)
    rw [show "grey".toList = ['g', 'r', 'e', 'y'] from rfl]
    simp only [isGrey, List.cons_append, List.nil_append, Bool.and_eq_true, Bool.not_eq_true',
      List.isEmpty_eq_false_iff, decide_eq_true_eq]
    exact ⟨⟨⟨hsome, hlength'⟩, hdigits⟩, hlevel⟩

theorem names_grey_iff {name : String} :
    grey.Names name ↔ ∃ n ≤ 100, name.toList = "grey".toList ++ Nat.toDigits 10 n := by
  simp only [Names, ← String.toList_inj, String.toList_append, Nat.toList_repr]

theorem isPadded_iff {name : String} : IsPadded name ↔ ∃ zeros n : Nat, 0 < zeros ∧
    zeros + (Nat.toDigits 10 n).length ≤ 3 ∧
      name.toList = "grey".toList ++ (List.replicate zeros '0' ++ Nat.toDigits 10 n) := by
  simp only [IsPadded, ← String.toList_inj, String.toList_append, String.toList_ofList, Nat.toList_repr,
    List.append_assoc, ← String.length_toList]

/-- **The test of a family** accepts its names, and that of the grey ramp the padded greys as well. -/
theorem test_iff {name : String} {family : ColorFamily} :
    test name family = true ↔ family.Names name ∨ (family = grey ∧ IsPadded name) := by
  cases family with
  | normal => simp [test, Names]
  | x11 => simp [test, Names]
  | numbered => simpa [test] using isNumbered_iff
  | grey =>
    rw [test, isGrey_iff, names_grey_iff, isPadded_iff]
    constructor
    · rintro ⟨zeros, n, hlength, hn, hname⟩
      rcases Nat.eq_zero_or_pos zeros with rfl | hzeros
      · exact .inl ⟨n, hn, hname⟩
      · exact .inr ⟨rfl, zeros, n, hzeros, hlength, hname⟩
    · rintro (⟨n, hn, hname⟩ | ⟨-, zeros, n, hzeros, hlength, hname⟩)
      · have hlength : (Nat.toDigits 10 n).length ≤ 3 :=
          (Nat.length_toDigits_le_iff (by decide) (by decide)).2 (by omega)
        exact ⟨0, n, by omega, hn, hname⟩
      · -- A zero leaves room for two digits.
        have hn : n < 10 ^ 2 := (Nat.length_toDigits_le_iff (by decide) (by decide)).1 (by omega)
        exact ⟨zeros, n, hlength, by omega, hname⟩

/-! ## Letters and digits -/

/-- What the letters and the digits of a family's names are. -/
def Forms (stem digits : List Char) : ColorFamily → Prop
  | normal => String.ofList stem ∈ Palette.normal ∧ digits = []
  | x11 => String.ofList stem ∈ Palette.x11 ∧ digits = []
  | numbered => String.ofList stem ∈ Palette.numberedBases ∧ digits ≠ []
  | grey => stem = "grey".toList ∧ digits ≠ []

theorem forms_unique {stem digits : List Char} {f g : ColorFamily} (hf : f.Forms stem digits)
    (hg : g.Forms stem digits) : f = g := by
  have htables : ∀ name ∈ Palette.normal, name ∉ Palette.x11 := by decide +kernel
  have hbases : "grey" ∉ Palette.numberedBases := by decide +kernel
  cases f <;> cases g
  case normal.normal | x11.x11 | numbered.numbered | grey.grey => rfl
  case normal.x11 => exact absurd hg.1 (htables _ hf.1)
  case x11.normal => exact absurd hf.1 (htables _ hg.1)
  case numbered.grey => exact absurd hf.1 (hg.1 ▸ hbases)
  case grey.numbered => exact absurd hg.1 (hf.1 ▸ hbases)
  case normal.numbered | normal.grey | x11.numbered | x11.grey => exact absurd hf.2 hg.2
  case numbered.normal | numbered.x11 | grey.normal | grey.x11 => exact absurd hg.2 hf.2

theorem isLetter_of_mem_table {table : List String} (htable : table.all (·.toList.all isLetter) = true) {name : String}
    (h : name ∈ table) : ∀ c ∈ name.toList, isLetter c = true :=
  List.all_eq_true.1 (List.all_eq_true.1 htable name h)

/-- **A name that is accepted** is letters and digits, and they are of its family's form. -/
theorem exists_forms {name : String} {family : ColorFamily} (h : test name family = true) :
    ∃ stem digits, name.toList = stem ++ digits ∧ (∀ c ∈ stem, isLetter c = true) ∧
      (∀ c ∈ digits, isDigit c = true) ∧ family.Forms stem digits := by
  cases family with
  | normal =>
    have hname : name ∈ Palette.normal := List.contains_iff_mem.1 h
    exact ⟨name.toList, [], by simp, isLetter_of_mem_table (by decide +kernel) hname, nofun, by simpa [Forms]⟩
  | x11 =>
    have hname : name ∈ Palette.x11 := List.contains_iff_mem.1 h
    exact ⟨name.toList, [], by simp, isLetter_of_mem_table (by decide +kernel) hname, nofun, by simpa [Forms]⟩
  | numbered =>
    obtain ⟨base, hbase, number, -, rfl⟩ := isNumbered_iff.1 h
    have hletters : ∀ c ∈ base.toList, isLetter c = true := isLetter_of_mem_table (by decide +kernel) hbase
    refine ⟨base.toList, (Nat.repr number).toList, String.toList_append, hletters, fun _ => Text.isDigit_of_mem_repr,
      by simpa [Forms], ?_⟩
    rw [Nat.toList_repr]
    exact Nat.toDigits_ne_nil
  | grey =>
    obtain ⟨zeros, n, -, -, hname⟩ := isGrey_iff.1 h
    refine ⟨_, _, hname, List.all_eq_true.1 (by decide), isDigit_of_mem_zeros_append zeros n, rfl, ?_⟩
    simp [Nat.toDigits_ne_nil]

/-- **No name is in two families.** -/
theorem test_unique {name : String} {f g : ColorFamily} (hf : test name f = true) (hg : test name g = true) :
    f = g := by
  obtain ⟨stem, digits, hname, hstem, hdigits, hforms⟩ := exists_forms hf
  obtain ⟨stem', digits', hname', hstem', hdigits', hforms'⟩ := exists_forms hg
  -- The letters end where the digits begin, so both names fall apart at one place.
  have hstops : ∀ {digits : List Char}, (∀ c ∈ digits, isDigit c = true) → Text.Stops isLetter digits :=
    fun h c hc => Text.not_isLetter_of_isDigit (h c (List.mem_of_mem_head? hc))
  obtain ⟨rfl, rfl⟩ :=
    Text.run_append_inj hstem hstem' (hstops hdigits) (hstops hdigits') (hname.symm.trans hname')
  exact forms_unique hforms hforms'

theorem isPadded_not_names {name : String} (h : IsPadded name) (family : ColorFamily) : ¬ family.Names name := by
  intro hnames
  obtain rfl : family = grey := test_unique (test_iff.2 (.inl hnames)) (test_iff.2 (.inr ⟨rfl, h⟩))
  obtain ⟨zeros, n, hzeros, -, hname⟩ := isPadded_iff.1 h
  obtain ⟨level, -, hlevel⟩ := names_grey_iff.1 hnames
  obtain ⟨zeros, rfl⟩ := Nat.exists_eq_add_one_of_ne_zero (Nat.pos_iff_ne_zero.1 hzeros)
  have hdigits := List.append_cancel_left (hlevel.symm.trans hname)
  rw [List.replicate_succ, List.cons_append] at hdigits
  -- A numeral that begins with a zero is that of zero, and has no digit behind it.
  obtain rfl := Text.eq_zero_of_toDigits level hdigits
  have hlength := congrArg List.length hdigits
  have hsome := Nat.length_toDigits_pos (b := 10) (n := n)
  simp only [Nat.toDigits_zero, List.length_cons, List.length_append, List.length_nil] at hlength
  omega

/-- **The order of the tests does not matter**: whatever it is, the first test that accepts is the only one. -/
theorem find?_test_eq_some_iff {name : String} {family : ColorFamily} {order : List ColorFamily}
    (hall : ∀ f : ColorFamily, f ∈ order) : order.find? (test name) = some family ↔ test name family = true := by
  refine ⟨List.find?_some, fun h => ?_⟩
  cases hfind : order.find? (test name) with
  | none => exact absurd h (List.find?_eq_none.1 hfind family (hall family))
  | some first => rw [test_unique (List.find?_some hfind) h]

theorem of?_eq_find? (name : String) : of? name = [normal, x11, numbered, grey].find? (test name) := by
  simp only [of?, List.find?_cons, List.find?_nil, test]
  cases Palette.normal.contains name <;> cases Palette.x11.contains name <;> cases isNumbered name.toList <;>
    cases isGrey name.toList <;> rfl

theorem mem_order (f : ColorFamily) : f ∈ [normal, x11, numbered, grey] := by cases f <;> decide

theorem of?_eq_some_iff {name : String} {family : ColorFamily} :
    of? name = some family ↔ test name family = true := by
  rw [of?_eq_find?]
  exact find?_test_eq_some_iff mem_order

end ColorFamily

namespace Color

theorem ofName_eq_ok_iff {name : String} {c : Color} : ofName name = .ok c ↔ c.name = name := by
  constructor
  · intro h
    unfold ofName at h
    split at h
    · cases h
      rfl
    · cases h
  · rintro rfl
    unfold ofName
    split
    · next family h =>
      have hfamily := Option.some.inj (h.symm.trans c.known)
      cases c
      cases hfamily
      rfl
    · next h => exact absurd (h.symm.trans c.known) nofun

theorem ofName_eq_error_iff {name : String} {e : ScoreError} :
    ofName name = .error e ↔ ColorFamily.of? name = none ∧ e = .invalidArgument (.notColor name) := by
  unfold ofName
  split
  · next family h => simp [h]
  · next h => simp [h, eq_comm]

/-- **The families of color names.**  A name is read as a color of just the family that it is in; besides, `grey` with
zeros before the numeral is read as a grey, though such names are in no family.  Any other name is refused.  No name is
in two families, so the order in which they are tried does not matter. -/
theorem families_exact (name : String) :
    (∀ family, (∃ c, ofName name = .ok c ∧ c.name = name ∧ c.family = family) ↔
      family.Names name ∨ (family = .grey ∧ ColorFamily.IsPadded name)) ∧
    (∀ e, ofName name = .error e ↔ e = .invalidArgument (.notColor name) ∧
      ¬ ColorFamily.IsPadded name ∧ ∀ family : ColorFamily, ¬ family.Names name) ∧
    (∀ f g : ColorFamily, f.Names name → g.Names name → f = g) ∧
    (ColorFamily.IsPadded name → ∀ family : ColorFamily, ¬ family.Names name) ∧
    ∀ order : List ColorFamily, (∀ f, f ∈ order) → order.find? (ColorFamily.test name) = ColorFamily.of? name := by
  refine ⟨fun family => ?_, fun e => ?_, fun f g hf hg => ?_, ColorFamily.isPadded_not_names, fun order hall => ?_⟩
  · rw [← ColorFamily.test_iff, ← ColorFamily.of?_eq_some_iff]
    constructor
    · rintro ⟨c, -, rfl, rfl⟩
      exact c.known
    · intro h
      exact ⟨⟨name, family, h⟩, ofName_eq_ok_iff.2 rfl, rfl, rfl⟩
  · rw [ofName_eq_error_iff, and_comm, Option.eq_none_iff_forall_ne_some]
    simp only [ne_eq, ColorFamily.of?_eq_some_iff, ColorFamily.test_iff, not_or]
    refine and_congr_right fun _ => ⟨fun h => ⟨fun hpadded => ?_, fun family => (h family).1⟩, fun h family => ?_⟩
    · exact (h .grey).2 ⟨rfl, hpadded⟩
    · exact ⟨h.2 family, fun hpadded => h.1 hpadded.2⟩
  · exact ColorFamily.test_unique (ColorFamily.test_iff.2 (.inl hf)) (ColorFamily.test_iff.2 (.inl hg))
  · cases hof : ColorFamily.of? name with
    | some family => exact (ColorFamily.find?_test_eq_some_iff hall).2 (ColorFamily.of?_eq_some_iff.1 hof)
    | none =>
      rw [List.find?_eq_none]
      intro family _ htest
      rw [ColorFamily.of?_eq_some_iff.2 htest] at hof
      cases hof

/-- A level with zeros before it is read as a grey, and is the name of no color. -/
theorem reads_padded_grey :
    (∃ c, ofName "grey007" = .ok c ∧ c.name = "grey007" ∧ c.family = .grey) ∧
    ∀ family : ColorFamily, ¬ family.Names "grey007" := by
  have hpadded : ColorFamily.IsPadded "grey007" := ⟨2, 7, by decide, by decide, by decide⟩
  exact ⟨⟨⟨"grey007", .grey, by decide⟩, ofName_eq_ok_iff.2 rfl, rfl, rfl⟩, ColorFamily.isPadded_not_names hpadded⟩

end Color
end Partitura
