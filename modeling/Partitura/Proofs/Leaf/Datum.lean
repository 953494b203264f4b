import Partitura.Leaf.Build
import Partitura.Proofs.Leaf.Characters
/-!
# Proofs.Leaf.Datum — numbers, texts, symbols, pairs and lists

Values that are made of these can be told by the first character of their literals (`Datum.opening?_append`): a digit or
a minus sign, a quote, a parenthesis, or what may begin a symbol.
-/
namespace Partitura
namespace Leaf

open Text (Delimited isDelimiter)

/-- **Values made of numbers, texts and symbols**, of pairs and of lists, in any nesting. -/
inductive Datum : Leaf → Prop
  | signedInt (z : Int) : Datum (.signedInt z)
  | string (text : String) : Datum (.string text)
  | ofSymbol {name : String} {v : Leaf} (h : ofSymbol name = .ok v) : Datum v
  | pair {first second : Leaf} (hfirst : Datum first) (hsecond : Datum second) : Datum (.pair first second)
  | ofPair {items : List Leaf} {v : Leaf} (hitems : ∀ item ∈ items, Datum item) (h : ofPair items = .ok v) : Datum v
  | list {items : List Leaf} (hitems : ∀ item ∈ items, Datum item) : Datum (.list items)

/-- What a literal is, by its first character. -/
inductive Opening where
  | number
  | text
  | word
  | group
  deriving DecidableEq

/-- What begins with a character, if anything does. -/
def Opening.of? (c : Char) : Option Opening :=
  if c = '"' then some .text
  else if c = '(' then some .group
  else if c = '-' ∨ Text.isDigit c = true then some .number
  else if isSymbolStart c then some .word
  else none

def opening? (cs : List Char) : Option Opening := cs.head?.bind Opening.of?

/-- What the literal of a datum is. -/
def opening : Leaf → Opening
  | .signedInt _ => .number
  | .string _ => .text
  | .symbol _ => .word
  | _ => .group

theorem ofSymbol_eq_ok_iff {name : String} {v : Leaf} :
    ofSymbol name = .ok v ↔ ∃ s : Symbol, s.name = name ∧ v = .symbol s := by
  unfold ofSymbol
  constructor
  · intro h
    split at h
    · rename_i hname
      cases h
      exact ⟨⟨name, hname⟩, rfl, rfl⟩
    · cases h
  · rintro ⟨s, rfl, rfl⟩
    rw [dif_pos s.wellFormed]

theorem ofPair_eq_ok_iff {items : List Leaf} {v : Leaf} :
    ofPair items = .ok v ↔ ∃ first second, items = [first, second] ∧ v = .pair first second := by
  constructor
  · intro h
    unfold ofPair at h
    split at h
    · cases h
      exact ⟨_, _, rfl, rfl⟩
    · cases h
  · rintro ⟨first, second, rfl, rfl⟩
    rfl

/-- **A datum whose literal begins so.** -/
def Opening.Begins : Opening → Leaf → Prop
  | number, v => ∃ z, v = .signedInt z
  | text, v => ∃ text, v = .string text
  | word, v => ∃ s, v = .symbol s
  | group, v => (∃ first second, v = .pair first second ∧ Datum first ∧ Datum second) ∨
    ∃ items, v = .list items ∧ ∀ item ∈ items, Datum item

theorem Datum.begins {v : Leaf} (h : Datum v) : v.opening.Begins v := by
  cases h with
  | signedInt z => exact ⟨z, rfl⟩
  | string text => exact ⟨text, rfl⟩
  | ofSymbol h =>
    obtain ⟨s, -, rfl⟩ := ofSymbol_eq_ok_iff.1 h
    exact ⟨s, rfl⟩
  | pair hfirst hsecond => exact .inl ⟨_, _, rfl, hfirst, hsecond⟩
  | ofPair hitems h =>
    obtain ⟨first, second, rfl, rfl⟩ := ofPair_eq_ok_iff.1 h
    exact .inl ⟨first, second, rfl, hitems first (by simp), hitems second (by simp)⟩
  | list hitems => exact .inr ⟨_, rfl, hitems⟩

/-! ## The characters of a literal -/

theorem isDelimiter_iff {c : Char} : isDelimiter c = true ↔ c = ' ' ∨ c = ')' := by
  simp [isDelimiter]

/-- A word goes on up to the next delimiter. -/
theorem not_isDelimiter_of_isWord {cs : List Char} (h : IsWord cs) : ∀ c ∈ cs, isDelimiter c = false := by
  intro c hc
  rw [Bool.eq_false_iff]
  intro hdelimiter
  rcases isDelimiter_iff.1 hdelimiter with rfl | rfl
  · exact absurd (h ' ' hc) (by decide)
  · exact absurd (h ')' hc) (by decide)

theorem not_isSymbolStart_of_isDigit {c : Char} (h : Text.isDigit c = true) : isSymbolStart c = false := by
  have hsigns : "_!$%&*/:<=>?^~".toList.all (fun c => !Text.isDigit c) = true := by decide
  rw [isSymbolStart, Text.not_isLetter_of_isDigit h, Bool.false_or, Bool.eq_false_iff]
  intro hsign
  have hc := List.all_eq_true.1 hsigns c (List.contains_iff_mem.1 hsign)
  rw [h] at hc
  cases hc

theorem opening?_symbol (s : Symbol) (cs : List Char) : opening? (s.name.toList ++ cs) = some .word := by
  have hname := s.wellFormed
  cases hcs : s.name.toList with
  | nil => rw [hcs] at hname; cases hname
  | cons c rest =>
    rw [hcs, isSymbol, Bool.and_eq_true] at hname
    have hstart := hname.1
    have hne : ∀ c', isSymbolStart c' = false → c ≠ c' := by
      rintro c' hc' rfl
      exact absurd hstart (Bool.eq_false_iff.1 hc')
    have hdigit : Text.isDigit c ≠ true := fun hc => by
      rw [not_isSymbolStart_of_isDigit hc] at hstart
      cases hstart
    rw [opening?, List.cons_append, List.head?_cons, Option.bind_some, Opening.of?, if_neg (hne '"' (by decide)),
      if_neg (hne '(' (by decide)), if_neg (not_or.2 ⟨hne '-' (by decide), hdigit⟩), if_pos hstart]

theorem opening?_number (z : Int) (cs : List Char) : opening? (z.repr.toList ++ cs) = some .number := by
  have hnumber : ∀ c rest, c = '-' ∨ Text.isDigit c = true → opening? (c :: rest ++ cs) = some .number := by
    intro c rest hc
    have hne : ∀ c', c' ≠ '-' → Text.isDigit c' = false → c ≠ c' := by
      rintro c' hminus hdigit rfl
      rw [hdigit] at hc
      exact hc.elim hminus nofun
    rw [opening?, List.cons_append, List.head?_cons, Option.bind_some, Opening.of?,
      if_neg (hne '"' (by decide) (by decide)), if_neg (hne '(' (by decide) (by decide)), if_pos hc]
  obtain ⟨digits, hsome, hdigits, heq | heq⟩ := toList_repr z
  · cases digits with
    | nil => exact absurd rfl hsome
    | cons c digits =>
      rw [heq]
      exact hnumber c digits (.inr (hdigits c List.mem_cons_self))
  · rw [heq]
    exact hnumber '-' digits (.inl rfl)

/-! ## The members of a literal -/

/-- The literals behind the first member of a list, and the parenthesis that closes it. -/
def rest (items : List Leaf) : List Char := items.flatMap (fun v => ' ' :: v.nested.toList) ++ [')']

/-- The literals of a list behind the parenthesis that opens it. -/
def members : List Leaf → List Char
  | [] => [')']
  | item :: items => item.nested.toList ++ rest items

theorem nestedItems_eq_map : ∀ items : List Leaf, nestedItems items = items.map nested
  | [] => rfl
  | item :: items => by rw [nestedItems, List.map_cons, nestedItems_eq_map items]

theorem toList_pair_append (first second : Leaf) (s : List Char) : (Leaf.pair first second).nested.toList ++ s =
    '(' :: (first.nested.toList ++ ' ' :: '.' :: ' ' :: (second.nested.toList ++ ')' :: s)) := by
  simp [nested]

theorem toList_list (items : List Leaf) : (Leaf.list items).nested.toList = '(' :: members items := by
  cases items with
  | nil => decide
  | cons item items =>
    have hitems := Text.toList_intercalate_cons item.nested (items.map nested)
    rw [List.flatMap_map] at hitems
    simp [nested, members, rest, nestedItems_eq_map, hitems]

theorem delimited_rest (items : List Leaf) (cs : List Char) : Delimited (rest items ++ cs) := by
  cases items <;> simp [rest, isDelimiter]

theorem Datum.opening?_append {v : Leaf} (h : Datum v) (cs : List Char) :
    opening? (v.nested.toList ++ cs) = some v.opening := by
  have hbegins := h.begins
  cases v with
  | signedInt z => exact opening?_number z cs
  | string text => rw [nested, Text.toList_quoted]; rfl
  | symbol s => exact opening?_symbol s cs
  | pair first second => rw [toList_pair_append]; rfl
  | list items => rw [toList_list]; rfl
  | _ => simp [opening, Opening.Begins] at hbegins

/-- **Two data whose literals begin alike** are of one shape. -/
theorem Datum.begins_alike {v w : Leaf} (hv : Datum v) (hw : Datum w) {s t : List Char}
    (h : v.nested.toList ++ s = w.nested.toList ++ t) : v.opening.Begins w := by
  have hopen := hw.opening?_append t
  rw [← h, hv.opening?_append s] at hopen
  rw [Option.some.inj hopen]
  exact hw.begins

theorem Datum.ne_begin {v : Leaf} (h : Datum v) {c : Char} (hc : Opening.of? c = none) {s t : List Char} :
    v.nested.toList ++ s ≠ c :: t := by
  intro heq
  have hopen := h.opening?_append s
  rw [heq, opening?, List.head?_cons, Option.bind_some, hc] at hopen
  cases hopen

end Leaf
end Partitura
